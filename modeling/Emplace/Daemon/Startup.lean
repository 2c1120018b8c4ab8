import Emplace.Device.Profile
import Emplace.Dispatch.Error

namespace Emplace.Daemon

inductive StartError
  | config (path : String) (cause : Settings.LoadError)
  | cipher (cause : Cipher.SetupError)
  | bind (port : UInt16) (cause : SystemError)
  deriving DecidableEq, Repr, Inhabited

def setupTexts (cause : Cipher.SetupError) : List String :=
  ["failed to set up dispatch cipher", (DispatchError.ofSetup cause).text] ++
    match cause with
    | .cipher _ => []
    | .keyFile e => [e.text]

def StartError.texts : StartError → List String
  | .config path cause => [s!"failed to load config from {path}", cause.text]
  | .cipher cause => setupTexts cause
  | .bind port cause => [s!"failed to bind 0.0.0.0:{port}", cause.text]

def causeLines (causes : List String) : List String :=
  match causes with
  | [cause] => [s!"    {cause}\n"]
  | _ => causes.zipIdx.map fun (cause, i) => s!"    {i}: {cause}\n"

def report (texts : List String) : String :=
  match texts with
  | [] => ""
  | [text] => s!"Error: {text}\n"
  | text :: causes => s!"Error: {text}\n\nCaused by:\n" ++ String.join (causeLines causes)

structure Host where
  name : String
  read : String → Except SystemError Bytes
  bind : UInt16 → Except SystemError Unit

def load (host : Host) (path : Option String) (port : Option UInt16) :
    Except StartError Settings := do
  let settings ← match path with
    | some path => (Settings.ofFile (host.read path)).mapError (.config path)
    | none => .ok .standard
  return { settings with
    device := { settings.device with listenPort := port.getD settings.device.listenPort } }

def profile (host : Host) (settings : Settings) : Except Cipher.SetupError Profile :=
  Profile.ofSettings settings host.name (settings.dispatch.keyFile.map host.read)

def start (host : Host) (path : Option String) (port : Option UInt16) :
    Except StartError (Settings × Profile) := do
  let settings ← load host path port
  let profile ← (profile host settings).mapError .cipher
  (host.bind settings.device.listenPort).mapError (.bind settings.device.listenPort)
  return (settings, profile)

end Emplace.Daemon
