import Emplace.Device.Tables
import Emplace.Http.Attempt
import Emplace.Invocation
import Emplace.Procedure
import Emplace.Telemetry

namespace Emplace

/-- What came back from a peer, and after how long; no time at all means that nothing came back. -/
structure Delivery where
  delay : Option Duration
  result : Except DispatchError ExecutionOutput

inductive Call
  | sample (metric : Metric)
  | release
  | stamp
  | nonce
  | execute (executable : String) (args : List String)
  | send (address : String) (payload : RemoteExecution) (cipher : Cipher)
  | announce (seed : String) (a : Announcement)

abbrev Call.Answer : Call → Type
  | .sample _ => Except TelemetryError Float
  | .release => Unit
  | .stamp => UInt64
  | .nonce => Gcm.Nonce
  | .execute .. => Except DispatchError ExecutionOutput
  | .send .. => Delivery
  | .announce .. => Http.Attempt

namespace Device

inductive Step
  | access (a : Access)
  | call (c : Call)

abbrev Step.Answer : Step → Type
  | .access a => a.Answer
  | .call c => c.Answer

abbrev interface : Interface := ⟨Step, Step.Answer⟩

end Device

abbrev Request (α : Type) := Procedure Device.interface α

abbrev FallibleRequest (α : Type) := Procedure.Fallible Device.interface Failure α

namespace Request

def access (a : Access) : Request a.Answer := Procedure.step (I := Device.interface) (.access a)

def call (c : Call) : Request c.Answer := Procedure.step (I := Device.interface) (.call c)

end Request

namespace FallibleRequest

def certain (r : Request α) : FallibleRequest α := ExceptT.lift r

def settle (outcome : Except Failure α) : FallibleRequest α := ExceptT.mk (pure outcome)

end FallibleRequest

end Emplace
