import Emplace.Device.Dispatch
import Emplace.Device.Placement

/-!
# Invocations

`invoke` is the caller's side: admit, place, dispatch. `executeRemote` is the side of a peer that an execution
was forwarded to: it repeats every check against its own tables before it runs anything.
-/

namespace Emplace.Device

open FallibleRequest

def invoke (profile : Profile) (request : InvokeRequest) : FallibleRequest InvokeResponse := do
  let executable ← admitted request.serviceName request.requester request.args
  let decision ← chooseTarget profile request.serviceName
  let execution := ⟨request.serviceName, request.requester, executable, request.args⟩
  let limit := request.timeoutMs.map fun ms => Duration.ofMillis ms.toNat
  let output ← dispatch profile decision execution limit
  return ⟨request.serviceName, decision.targetDeviceId, decision.isLocal, output⟩

def readExecution (cipher : Cipher) (payload : Bytes) : Except Failure RemoteExecution :=
  match cipher.opened payload with
  | .error e => .error (.invalidCommand (.unreadable e))
  | .ok plain =>
    (RemoteExecution.shape.decode plain).mapError fun fault => .invalidCommand (.malformed fault)

def executeRemote (profile : Profile) (payload : Bytes) : FallibleRequest Bytes := do
  let execution ← settle (readExecution profile.cipher payload)
  checkRequester execution.serviceName execution.requester
  verify execution.serviceName execution.executable
  settle (Admission.checkArgs execution.args)
  let outcome ← certain (Request.call (.execute execution.executable execution.args))
  let output ← settle (outcome.mapError (.dispatchFailed profile.id))
  let nonce ← certain (Request.call .nonce)
  settle <|
    (profile.cipher.sealed nonce (ExecutionOutput.shape.encode output)).mapError fun e =>
      .dispatchFailed profile.id (.cipher e)

end Emplace.Device
