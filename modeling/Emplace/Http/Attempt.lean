import Emplace.SystemError
import Emplace.Text.Utf8

namespace Emplace.Http

inductive Attempt
  | answered (status : Nat) (body : Bytes)
  | refused (cause : SystemError)
  | dropped
  | silent
  deriving DecidableEq, Repr, Inhabited

def isSuccess (status : Nat) : Bool := 200 ≤ status && status < 300

def Attempt.succeeded : Attempt → Bool
  | .answered status _ => isSuccess status
  | _ => false

end Emplace.Http
