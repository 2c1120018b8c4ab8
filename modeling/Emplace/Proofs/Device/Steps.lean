import Emplace.Device.Invoke
import Emplace.Device.Reload
import Emplace.Proofs.Admission.Checks
import Emplace.Proofs.Procedure.Questions

namespace Emplace

open Procedure

namespace FallibleRequest

variable {α : Type}

@[simp] theorem run_settle (outcome : Except Failure α) : (settle outcome).run = done outcome := rfl

@[simp] theorem run_certain (r : Request α) : (certain r).run = r.andThen fun a => done (.ok a) := rfl

end FallibleRequest

namespace Device

def Step.Looks : Step → Prop
  | .access (.allowList _) | .access (.command _) | .access .peers | .access .isClosed | .call (.sample _) => True
  | _ => False

theorem run_checkRequester (service requester : String) :
    (checkRequester service requester).run =
      ask (Step.access (.allowList service)) fun found => done (Admission.permitted service requester found) := rfl

theorem run_resolve (service : String) :
    (resolve service).run =
      ask (Step.access (.command service)) fun found => done (Admission.resolved service found) := rfl

theorem run_verify (service executable : String) :
    (verify service executable).run =
      ask (Step.access (.command service)) fun found => done (Admission.verified service executable found) := rfl

theorem run_dispatch (profile : Profile) (decision : PlacementDecision) (execution : RemoteExecution)
    (limit? : Option Duration) :
    (dispatch profile decision execution limit?).run =
      if decision.isLocal then
        ask (Step.call (.execute execution.executable execution.args)) fun (outcome : Except DispatchError _) =>
          done (outcome.mapError (.dispatchFailed decision.targetDeviceId))
      else
        ask (Step.call (.send decision.targetAddress execution profile.cipher)) fun (delivery : Delivery) =>
          done ((delivery.within (limit?.getD profile.limit)).mapError (.dispatchFailed decision.targetDeviceId)) := by
  unfold dispatch
  cases decision.isLocal <;> rfl

def perform (profile : Profile) (x : RemoteExecution) : FallibleRequest Bytes := do
  checkRequester x.serviceName x.requester
  verify x.serviceName x.executable
  FallibleRequest.settle (Admission.checkArgs x.args)
  let outcome ← FallibleRequest.certain (Request.call (.execute x.executable x.args))
  let output ← FallibleRequest.settle (outcome.mapError (.dispatchFailed profile.id))
  let nonce ← FallibleRequest.certain (Request.call .nonce)
  FallibleRequest.settle <|
    (profile.cipher.sealed nonce (ExecutionOutput.shape.encode output)).mapError fun e =>
      .dispatchFailed profile.id (.cipher e)

theorem run_executeRemote (profile : Profile) (payload : Bytes) :
    (executeRemote profile payload).run = onSuccess (perform profile) (readExecution profile.cipher payload) := by
  rw [executeRemote, run_bind, FallibleRequest.run_settle, done_andThen]
  rfl

theorem checkRequester_looks (service requester : String) :
    (checkRequester service requester).run.Only Step.Looks := ⟨trivial, fun _ => trivial⟩

theorem resolve_looks (service : String) : (resolve service).run.Only Step.Looks := ⟨trivial, fun _ => trivial⟩

theorem verify_looks (service executable : String) : (verify service executable).run.Only Step.Looks :=
  ⟨trivial, fun _ => trivial⟩

theorem admitted_looks (service requester : String) (args : List String) :
    (admitted service requester args).run.Only Step.Looks := by
  unfold admitted
  refine (checkRequester_looks service requester).bind fun _ => (resolve_looks service).bind fun executable => ?_
  refine .bind ?_ fun _ => ?_ <;> trivial

def Step.Weighs : Step → Prop
  | .access .peers | .access .isClosed | .call (.sample _) => True
  | _ => False

theorem Step.Weighs.looks {s : Step} (weighs : s.Weighs) : s.Looks := by
  cases s with
  | access a => cases a <;> trivial
  | call c => cases c <;> trivial

theorem sampleMetric_weighs (metric : Metric) : (sampleMetric metric).run.Only Step.Weighs := by
  refine .bind ⟨trivial, fun _ => trivial⟩ fun outcome => ?_
  cases outcome <;> trivial

theorem sample_weighs (target : String) : (sample target).run.Only Step.Weighs := by
  refine .bind ⟨trivial, fun _ => trivial⟩ fun closed => ?_
  cases closed with
  | true => trivial
  | false =>
      refine (sampleMetric_weighs .cpuUsage).bind fun _ => (sampleMetric_weighs .cpuCount).bind fun _ => ?_
      refine (sampleMetric_weighs .cpuFrequency).bind fun _ => (sampleMetric_weighs .bandwidth).bind fun _ => ?_
      exact (sampleMetric_weighs (.roundTrip target)).bind fun _ => trivial

theorem score_weighs (target : String) : (score target).Only Step.Weighs := by
  have tried : (tryScore target).run.Only Step.Weighs := (sample_weighs target).bind fun _ => trivial
  refine tried.andThen fun outcome => ?_
  cases outcome <;> trivial

theorem chooseTarget_weighs (profile : Profile) (service : String) :
    (chooseTarget profile service).run.Only Step.Weighs := by
  refine .bind ((score_weighs profile.id).andThen fun _ => trivial) fun own => ?_
  refine .bind ⟨trivial, fun _ => trivial⟩ fun peers => ?_
  cases Placement.select ⟨profile.id, profile.address, own⟩ peers <;> trivial

theorem score_looks (target : String) : (score target).Only Step.Looks :=
  (score_weighs target).mono fun _ weighs => weighs.looks

theorem chooseTarget_looks (profile : Profile) (service : String) :
    (chooseTarget profile service).run.Only Step.Looks :=
  (chooseTarget_weighs profile service).mono fun _ weighs => weighs.looks

theorem place_looks (profile : Profile) (service requester : String) :
    (place profile service requester).run.Only Step.Looks := by
  unfold place
  refine (checkRequester_looks service requester).bind fun _ => (resolve_looks service).bind fun _ => ?_
  exact chooseTarget_looks profile service

def Step.Unchanging : Step → Prop
  | .access a => ∀ localId now (t : Tables), (t.apply localId now a).2 = t
  | .call _ => True

theorem Step.Looks.unchanging {s : Step} (looks : s.Looks) : s.Unchanging := by
  cases s with
  | access a => cases a <;> first | exact fun _ _ _ => rfl | exact looks.elim
  | call c => trivial

theorem dispatch_unchanging (profile : Profile) (decision : PlacementDecision) (execution : RemoteExecution)
    (limit? : Option Duration) : (dispatch profile decision execution limit?).run.Only Step.Unchanging := by
  rw [run_dispatch]
  cases decision.isLocal <;> exact ⟨trivial, fun _ => trivial⟩

theorem invoke_unchanging (profile : Profile) (request : InvokeRequest) :
    (invoke profile request).run.Only Step.Unchanging := by
  have looks {α : Type} {x : FallibleRequest α} (only : x.run.Only Step.Looks) : x.run.Only Step.Unchanging :=
    only.mono fun _ looks => looks.unchanging
  refine (looks (admitted_looks ..)).bind fun executable => (looks (chooseTarget_looks ..)).bind fun decision => ?_
  exact (dispatch_unchanging ..).bind fun _ => trivial

theorem executeRemote_unchanging (profile : Profile) (payload : Bytes) :
    (executeRemote profile payload).run.Only Step.Unchanging := by
  rw [run_executeRemote]
  cases readExecution profile.cipher payload with
  | error e => trivial
  | ok x =>
      have looks {α : Type} {x : FallibleRequest α} (only : x.run.Only Step.Looks) : x.run.Only Step.Unchanging :=
        only.mono fun _ looks => looks.unchanging
      refine (looks (checkRequester_looks ..)).bind fun _ => (looks (verify_looks ..)).bind fun _ => ?_
      refine .bind trivial fun _ => .bind ⟨trivial, fun _ => trivial⟩ fun outcome => .bind trivial fun output => ?_
      exact .bind ⟨trivial, fun _ => trivial⟩ fun nonce => trivial

def Step.Spares : Step → Prop
  | .access (.setCommand ..) | .access (.setAllowList ..) => False
  | _ => True

theorem Step.Unchanging.spares {s : Step} (unchanging : s.Unchanging) : s.Spares := by
  cases s with
  | call c => trivial
  | access a =>
      -- On empty tables, what is granted would be there afterwards.
      have same := unchanging "" ⟨0, 0⟩ Tables.empty
      cases a with
      | setCommand service executable =>
          have there := congrArg (fun t => t.commands.get? service) same
          simp [Tables.apply, Tables.empty] at there
      | setAllowList service requesters =>
          have there := congrArg (fun t => t.allowLists.get? service) same
          simp [Tables.apply, Tables.empty, Admission.AllowLists.store] at there
      | _ => trivial

/-- Steps that neither run nor forward anything, and register nothing but what may be registered. -/
def Step.Harmless : Step → Prop
  | .access (.setCommand _ executable) => Admission.Permissible executable
  | .call (.execute ..) | .call (.send ..) => False
  | _ => True

theorem Step.Looks.harmless {s : Step} (looks : s.Looks) : s.Harmless := by
  cases s with
  | access a => cases a <;> trivial
  | call c => cases c <;> trivial

theorem registerService_harmless (service executable : String) :
    (registerService service executable).run.Only Step.Harmless := by
  rw [registerService, run_bind, FallibleRequest.run_settle, done_andThen]
  cases approved : Admission.approve service executable with
  | error e => trivial
  | ok => exact ⟨Admission.approve_eq_ok_iff.1 approved, fun _ => trivial⟩

theorem applyDescriptor_harmless (d : ServiceDescriptor) : (applyDescriptor d).run.Only Step.Harmless :=
  (registerService_harmless d.serviceName d.executable).bind fun _ => ⟨trivial, fun _ => trivial⟩

theorem applyChanged_harmless (count : Nat) (applied : Applied) (d : ServiceDescriptor) :
    (applyChanged count applied d).Only Step.Harmless := by
  unfold applyChanged
  split
  · trivial
  · refine (applyDescriptor_harmless d).andThen fun outcome => ?_
    cases outcome <;> trivial

theorem reload_harmless (applied : Applied) (scan : Except Files.WalkError (List ServiceDescriptor)) :
    (reload applied scan).Only Step.Harmless := by
  cases scan with
  | error e => trivial
  | ok descriptors =>
      refine Only.andThen ?_ fun _ => trivial
      exact .foldlM (fun _ d => applyChanged_harmless _ _ d) (0, applied) descriptors

theorem close_harmless : close.Only Step.Harmless := by
  refine .andThen ⟨trivial, fun _ => trivial⟩ fun wasClosed => ?_
  cases wasClosed with
  | true => trivial
  | false => exact ⟨trivial, fun _ => trivial⟩

end Device

end Emplace
