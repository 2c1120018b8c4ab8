import Emplace.Device.Interface
import Emplace.Device.Profile

namespace Emplace

def Delivery.within (limit : Duration) (d : Delivery) : Except DispatchError ExecutionOutput :=
  match d.delay with
  | some delay => if delay ≤ limit then d.result else .error (.timeout limit)
  | none => .error (.timeout limit)

namespace Device

open FallibleRequest

def dispatch (profile : Profile) (decision : PlacementDecision) (execution : RemoteExecution)
    (limit? : Option Duration) : FallibleRequest ExecutionOutput := do
  let outcome ← certain <|
    if decision.isLocal then Request.call (.execute execution.executable execution.args)
    else do
      let delivery ← Request.call (.send decision.targetAddress execution profile.cipher)
      return delivery.within (limit?.getD profile.limit)
  settle (outcome.mapError (.dispatchFailed decision.targetDeviceId))

end Device

end Emplace
