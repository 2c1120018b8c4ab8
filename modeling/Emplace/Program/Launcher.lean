import Emplace.Program.Shell.State
import Emplace.Program.Utility.Argument

namespace Emplace.Program

open Shell (State)

structure Call where
  name : String
  args : List String
  environment : List (String × String)
  deriving DecidableEq, Repr, Inhabited

abbrev Start := State → Call → Except SystemError (State × Ending)

abbrev Launcher := Start → State → Call → State × Ending

def Shell.State.writeFault? (s : State) (stream : Nat) : Option String :=
  match s.streams.lookup stream with
  | none | some (.source _) => some "Bad file descriptor"
  | some (.file "/dev/full") => some "No space left on device"
  | some _ => none

def unaskedNames : List String := ["rev", "setsid"]

def complaintsOf (name called : String) (said : Bytes) : Bytes :=
  if name = called || unaskedNames.contains name then said
  else
    let renamed (line : List Char) : List Char :=
      match Text.stripStart? (name.toList ++ [':', ' ']) line with
      | some rest => called.toList ++ [':', ' '] ++ rest
      | none =>
        match Text.stripStart? ("Try \x27" ++ name ++ " --help\x27").toList line with
        | some rest => ("Try \x27" ++ called ++ " --help\x27").toList ++ rest
        | none => line
    let lines := (Raw.ofBytes said).splitOn "\n"
    Raw.bytesOf (['\n'].intercalate (lines.map fun line => renamed line.toList))

def Shell.State.take (s : State) (name called : String) (f : Finished) : State × Ending :=
  let fault := if f.stdout.isEmpty then none else s.writeFault? 1
  let failed := fault.isSome && f.ending = .exited 0
  let last := (fault.map fun words => Raw.bytes s!"{name}: write error: {words}\n").getD []
  let s := (s.putInto 2 (complaintsOf name called (f.stderr ++ last))).print f.stdout
  let s := match f.unread with
    | some rest => s.withRest 0 rest
    | none => s
  let s := { s with disk := f.changed.getD s.disk }
  match s.passTime f.took with
  | (s, some signal) => (s, .killed signal)
  | (s, none) => (s, if failed then .exited 1 else f.ending)

namespace Launcher

def leaving (s : State) (called : String) (f : Finished) : State × Ending := s.take called called f

def faultStatus (e : SystemError) : Nat := if e = .noSuchFile then 127 else 126

def running (start : Start) (s : State) (call : Call) (complaint : SystemError → String) : State × Ending :=
  match start s call with
  | .ok done => done
  | .error e => (s.sayPlainly (complaint e), .exited (faultStatus e))

def runningArguments (start : Start) (s : State) (call : Call) (args : List String)
    (complaint : String → SystemError → String) : State × Ending :=
  match args with
  | [] => (s, .exited 0)
  | name :: args => running start s { call with name := name, args := args } (complaint name)

end Launcher

end Emplace.Program
