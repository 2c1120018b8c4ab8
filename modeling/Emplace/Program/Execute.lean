import Emplace.Dispatch.Error
import Emplace.Invocation
import Emplace.Program.Shell

namespace Emplace.Program

def argumentLimit : Nat := 0x1FFFF

def find (executable : String) : Except SystemError Executable :=
  (locate host searched (Raw.ofText executable)).map Prod.snd

def Finished.output (f : Finished) : ExecutionOutput :=
  let code : Option Int32 := match f.ending with
    | .exited code => some (Int32.ofNat code)
    | .killed _ => none
  ⟨code, Text.lossyString f.stdout, Text.lossyString f.stderr⟩

def holdsNul (s : String) : Bool := s.toList.contains '\x00'

def execute (executable : String) (args : List String) : Except DispatchError ExecutionOutput :=
  if (executable :: args).any holdsNul then .error (.spawn executable .nulByte)
  else
    match find executable with
    | .ok program =>
      if args.any fun arg => argumentLimit < arg.utf8ByteSize then
        .error (.spawn executable .argumentsTooLong)
      else .ok (Shell.leavings host (Raw.ofText executable) (args.map Raw.ofText) program).output
    | .error e => .error (.spawn executable e)

end Emplace.Program
