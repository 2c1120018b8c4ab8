import Emplace.Program.Shell.Run

/-!
# Programs of a host

What a program leaves that is started on a host with an empty input, be it a shell, a program that runs others, or a
utility.
-/

namespace Emplace.Program.Shell

def depthLimit : Nat := 10000

/-- The number under which the first program runs. -/
def ownNumber : String := "4242"

def givenVariables : List (String × String) := [("PATH", standardPath), ("HOME", "/root")]

def State.start (disk : Files.Disk) : State where
  name := "init"
  number := ownNumber
  disk := disk
  here := Raw.ofText ("/" ++ "/".intercalate disk.working)

def leavings (disk : Files.Disk) (called : String) (args : List String) (found : Executable) : Finished :=
  let (after, ending) := startFound (run depthLimit) (State.start disk) ⟨called, args, givenVariables⟩ found
  { stdout := after.contentOf 0, stderr := after.contentOf 1, ending := ending }

end Emplace.Program.Shell
