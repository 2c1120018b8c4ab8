import Emplace.Device.Invoke
import Emplace.Proofs.Device.Steps

namespace Emplace.Device

open Procedure

inductive Carried (profile : Profile) (decision : PlacementDecision) (x : RemoteExecution) (limit : Duration) :
    Asked interface → Except DispatchError ExecutionOutput → Prop
  | here (isLocal : decision.isLocal = true) (outcome : Except DispatchError ExecutionOutput) :
    Carried profile decision x limit ⟨Step.call (.execute x.executable x.args), outcome⟩ outcome
  | inTime (remote : decision.isLocal = false) {delay : Duration} (result : Except DispatchError ExecutionOutput)
    (inTime : delay ≤ limit) :
    Carried profile decision x limit
      ⟨Step.call (.send decision.targetAddress x profile.cipher), (⟨some delay, result⟩ : Delivery)⟩ result
  | late (remote : decision.isLocal = false) {delay : Duration} (result : Except DispatchError ExecutionOutput)
    (late : limit < delay) :
    Carried profile decision x limit
      ⟨Step.call (.send decision.targetAddress x profile.cipher), (⟨some delay, result⟩ : Delivery)⟩
      (.error (.timeout limit))
  | silent (remote : decision.isLocal = false) (result : Except DispatchError ExecutionOutput) :
    Carried profile decision x limit
      ⟨Step.call (.send decision.targetAddress x profile.cipher), (⟨none, result⟩ : Delivery)⟩ (.error (.timeout limit))

def waitingTime (profile : Profile) (request : InvokeRequest) : Duration :=
  match request.timeoutMs with
  | some ms => Duration.ofMillis ms.toNat
  | none => profile.limit

inductive Invoked (profile : Profile) (request : InvokeRequest) :
    List (Asked interface) → Except Failure InvokeResponse → Prop
  | refused {log : List (Asked interface)} (looks : ∀ entry ∈ log, entry.step.Looks) (e : Failure) :
    Invoked profile request log (.error e)
  | failed {front : List (Asked interface)} {entry : Asked interface} {decision : PlacementDecision}
    {executable : String} {cause : DispatchError} (looks : ∀ entry ∈ front, entry.step.Looks)
    (carried : Carried profile decision ⟨request.serviceName, request.requester, executable, request.args⟩
      (waitingTime profile request) entry (.error cause)) :
    Invoked profile request (front ++ [entry]) (.error (.dispatchFailed decision.targetDeviceId cause))
  | answered {front : List (Asked interface)} {entry : Asked interface} {decision : PlacementDecision}
    {executable : String} {output : ExecutionOutput} (looks : ∀ entry ∈ front, entry.step.Looks)
    (carried : Carried profile decision ⟨request.serviceName, request.requester, executable, request.args⟩
      (waitingTime profile request) entry (.ok output)) :
    Invoked profile request (front ++ [entry])
      (.ok ⟨request.serviceName, decision.targetDeviceId, decision.isLocal, output⟩)

variable {profile : Profile} {decision : PlacementDecision} {x : RemoteExecution} {limit : Duration}

theorem carried_within (remote : decision.isLocal = false) (delivery : Delivery) :
    Carried profile decision x limit ⟨Step.call (.send decision.targetAddress x profile.cipher), delivery⟩
      (delivery.within limit) := by
  obtain ⟨delay?, result⟩ := delivery
  cases delay? with
  | none => exact .silent remote result
  | some delay =>
      unfold Delivery.within
      simp only
      split
      · exact .inTime remote result ‹_›
      · rename_i late
        exact .late remote result (Nat.lt_of_not_le late)

theorem dispatch_carried (profile : Profile) (decision : PlacementDecision) (x : RemoteExecution)
    (limit? : Option Duration) :
    (dispatch profile decision x limit?).run.Always fun log answer => ∃ entry outcome, log = [entry] ∧
      Carried profile decision x (limit?.getD profile.limit) entry outcome ∧
      answer = outcome.mapError (.dispatchFailed decision.targetDeviceId) := by
  rw [run_dispatch]
  cases isLocal : decision.isLocal with
  | true =>
      intro outcome
      exact ⟨_, outcome, rfl, .here isLocal outcome, rfl⟩
  | false =>
      intro delivery
      exact ⟨_, _, rfl, carried_within isLocal delivery, rfl⟩

theorem invoke_invoked (profile : Profile) (request : InvokeRequest) :
    (invoke profile request).run.Always (Invoked profile request) := by
  -- checking the request and choosing a device only look; the dispatch is the one step after them
  unfold invoke
  rw [run_bind]
  refine (Always.of_only (admitted_looks ..)).andThen fun admission outcome looks => ?_
  cases outcome with
  | error e =>
      rw [onSuccess_error, always_done_iff, List.append_nil]
      exact .refused looks e
  | ok executable =>
      rw [onSuccess_ok, run_bind]
      refine (Always.of_only (chooseTarget_looks ..)).andThen fun weighing outcome still => ?_
      have looks : ∀ entry ∈ admission ++ weighing, entry.step.Looks := List.forall_mem_append.2 ⟨looks, still⟩
      cases outcome with
      | error e =>
          rw [onSuccess_error, always_done_iff, List.append_nil]
          exact .refused looks e
      | ok decision =>
          rw [onSuccess_ok, run_bind_pure]
          apply Always.map
          refine (dispatch_carried ..).mono fun log answer carried => ?_
          obtain ⟨entry, outcome, rfl, carried, rfl⟩ := carried
          rw [← List.append_assoc]
          have same : (request.timeoutMs.map fun ms => Duration.ofMillis ms.toNat).getD profile.limit =
              waitingTime profile request := by
            unfold waitingTime
            cases request.timeoutMs <;> rfl
          rw [same] at carried
          cases outcome with
          | error cause => exact .failed looks carried
          | ok output => exact .answered looks carried

structure Dispatches (profile : Profile) : Prop where
  carried : ∀ decision x limit?,
    (dispatch profile decision x limit?).run.Always fun log answer => ∃ entry outcome, log = [entry] ∧
      Carried profile decision x (limit?.getD profile.limit) entry outcome ∧
      answer = outcome.mapError (.dispatchFailed decision.targetDeviceId)
  invoked : ∀ request, (invoke profile request).run.Always (Invoked profile request)

theorem dispatches (profile : Profile) : Dispatches profile where
  carried := dispatch_carried profile
  invoked := invoke_invoked profile

end Emplace.Device
