import Emplace.Device.Dispatch
import Emplace.Http.Attempt
import Emplace.Http.Status

namespace Emplace.Http

def sealedExecution (cipher : Cipher) (nonce : Gcm.Nonce) (payload : RemoteExecution) :
    Except DispatchError Bytes :=
  (cipher.sealed nonce (RemoteExecution.shape.encode payload)).mapError .cipher

def readOutput (cipher : Cipher) (body : Bytes) : Except DispatchError ExecutionOutput :=
  match cipher.opened body with
  | .error e => .error (.cipher e)
  | .ok plain => (ExecutionOutput.shape.decode plain).mapError .decode

def forwarded (cipher : Cipher) (address : String) : Attempt → Option (Except DispatchError ExecutionOutput)
  | .answered status body =>
    some <|
      if isSuccess status then readOutput cipher body
      else .error (.status status (Text.lossyString body))
  | .refused cause => some (.error (.connect address cause))
  | .dropped => some (.error (.http "request"))
  | .silent => none

def delivery (cipher : Cipher) (address : String) (delay : Duration) (attempt : Attempt) : Delivery :=
  match forwarded cipher address attempt with
  | some result => ⟨some delay, result⟩
  | none => ⟨none, .error (.http "request")⟩

def forward {m : Type → Type} [Monad m] (cipher : Cipher) (nonce : Gcm.Nonce)
    (post : Bytes → m (Duration × Attempt)) (address : String) (payload : RemoteExecution) :
    m Delivery :=
  match sealedExecution cipher nonce payload with
  | .error e => pure ⟨some ⟨0⟩, .error e⟩
  | .ok body => do
    let (delay, attempt) ← post body
    return delivery cipher address delay attempt

def probed (limit delay : Duration) : Attempt → Except TelemetryError Float
  | .answered status _ =>
    if limit < delay then .error (.probe s!"timed out after {limit.text}")
    else if isSuccess status then .ok (delay.nanos.toFloat / 1000000000.0)
    else .error (.probe s!"non-2xx status {statusText status}")
  | .refused cause => .error (.io cause)
  | .dropped => .error (.probe "request")
  | .silent => .error (.probe s!"timed out after {limit.text}")

def probeAddress (localId localAddress : String) (registry : Registry) (target : String) :
    Except TelemetryError String :=
  if target = localId then .ok localAddress
  else
    match registry.addressOf? target with
    | some address => .ok address
    | none => .error (.unknownTarget target)

end Emplace.Http
