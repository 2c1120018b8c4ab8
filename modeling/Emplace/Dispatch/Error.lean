import Emplace.Cipher
import Emplace.Duration
import Emplace.Json.Value

namespace Emplace

inductive DispatchError
  | connect (address : String) (cause : SystemError)
  | http (what : String)
  | status (code : Nat) (body : String)
  | cipher (cause : CipherError)
  | decode (cause : Json.Fault)
  | timeout (limit : Duration)
  | spawn (executable : String) (cause : SystemError)
  | io (cause : SystemError)
  | described (text : String)
  deriving DecidableEq, Repr, Inhabited

def DispatchError.text : DispatchError → String
  | .connect address cause => s!"connect to {address} failed: {cause.text}"
  | .http what => s!"http error: {what}"
  | .status code body => s!"peer answered {code}: {body}"
  | .cipher cause => s!"cipher error: {cause.text}"
  | .decode _ => "payload decode error"
  | .timeout limit => s!"timed out after {limit.text}"
  | .spawn executable cause => s!"failed to spawn {executable}: {cause.text}"
  | .io cause => s!"io error: {cause.text}"
  | .described text => text

def DispatchError.ofSetup : Cipher.SetupError → DispatchError
  | .cipher cause => .cipher cause
  | .keyFile cause => .io cause

end Emplace
