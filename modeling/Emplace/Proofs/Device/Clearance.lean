import Emplace.Proofs.Device.Traffic

namespace Emplace.Device

open Procedure Admission

structure Errand where
  service : String
  requester : String
  args : List String

namespace Errand

def execution (errand : Errand) (executable : String) : RemoteExecution :=
  ⟨errand.service, errand.requester, executable, errand.args⟩

def Found (errand : Errand) (executable : String) (past : List (Asked interface)) : Prop :=
  ∃ early between late allowed, past = early ++ ⟨Step.access (.allowList errand.service), some allowed⟩ ::
    (between ++ ⟨Step.access (.command errand.service), some executable⟩ :: late) ∧ errand.requester ∈ allowed

variable {errand : Errand} {executable : String} {past : List (Asked interface)}

theorem Found.append (found : errand.Found executable past) (more : List (Asked interface)) :
    errand.Found executable (past ++ more) := by
  obtain ⟨early, between, late, allowed, rfl, listed⟩ := found
  refine ⟨early, between, late ++ more, allowed, ?_, listed⟩
  simp

end Errand

def Task.errand? (profile : Profile) : Task → Option Errand
  | .invoke request => some ⟨request.serviceName, request.requester, request.args⟩
  | .executeRemote payload =>
    match readExecution profile.cipher payload with
    | .ok x => some ⟨x.serviceName, x.requester, x.args⟩
    | .error _ => none
  | _ => none

def Step.command? : Step → Option (String × List String)
  | .call (.execute executable args) => some (executable, args)
  | .call (.send _ payload _) => some (payload.executable, payload.args)
  | _ => none

def Step.Launches (errand : Errand) (executable : String) : Step → Prop
  | .call (.execute program args) => program = executable ∧ args = errand.args
  | .call (.send _ payload _) => payload = errand.execution executable
  | _ => False

theorem Step.Launches.command? {errand : Errand} {executable : String} {s : Step}
    (launches : s.Launches errand executable) : s.command? = some (executable, errand.args) := by
  cases s with
  | access a => exact launches.elim
  | call c =>
      cases c with
      | execute program args => obtain ⟨rfl, rfl⟩ := launches; rfl
      | send address payload cipher => obtain rfl := launches; rfl
      | _ => exact launches.elim

theorem Step.Harmless.command? {s : Step} (harmless : s.Harmless) : s.command? = none := by
  cases s with
  | access a => rfl
  | call c => cases c <;> first | rfl | exact harmless.elim

/-- A step that may follow a past, on an errand if there is one. -/
def Cleared (errand? : Option Errand) (past : List (Asked interface)) (s : Step) : Prop :=
  s.Harmless ∨ ∃ errand executable, errand? = some errand ∧ s.Launches errand executable ∧
    errand.Found executable past ∧ ∀ arg ∈ errand.args, ¬CarriesOperator arg

variable {errand? : Option Errand} {past : List (Asked interface)}

theorem dispatch_cleared (profile : Profile) (decision : PlacementDecision) (errand : Errand) {executable : String}
    (limit? : Option Duration) (found : errand.Found executable past)
    (clean : ∀ arg ∈ errand.args, ¬CarriesOperator arg) :
    (dispatch profile decision (errand.execution executable) limit?).run.Keeps (Cleared (some errand)) past := by
  rw [run_dispatch]
  cases decision.isLocal with
  | true => exact ⟨.inr ⟨errand, executable, rfl, ⟨rfl, rfl⟩, found, clean⟩, fun _ => trivial⟩
  | false => exact ⟨.inr ⟨errand, executable, rfl, rfl, found, clean⟩, fun _ => trivial⟩

theorem admitted_cleared {α : Type} (errand : Errand) {f : String → FallibleRequest α}
    (rest : ∀ executable past, errand.Found executable past → (∀ arg ∈ errand.args, ¬CarriesOperator arg) →
      (f executable).run.Keeps (Cleared (some errand)) past) :
    (admitted errand.service errand.requester errand.args >>= f).run.Keeps (Cleared (some errand)) past := by
  simp only [admitted, run_bind, run_checkRequester, ask_andThen, done_andThen, keeps_ask_iff]
  refine ⟨.inl trivial, fun found => ?_⟩
  cases permission : permitted errand.service errand.requester found with
  | error e => exact keeps_done _
  | ok =>
      simp only [onSuccess_ok, run_bind, run_resolve, ask_andThen, done_andThen, keeps_ask_iff]
      refine ⟨.inl trivial, fun registered => ?_⟩
      cases resolution : resolved errand.service registered with
      | error e => exact keeps_done _
      | ok executable =>
          simp only [onSuccess_ok, run_bind, FallibleRequest.run_settle, done_andThen]
          cases clean : checkArgs errand.args with
          | error e => exact keeps_done _
          | ok =>
              obtain ⟨allowed, rfl, listed⟩ := permitted_eq_ok_iff.1 permission
              obtain rfl := resolved_eq_ok_iff.1 resolution
              refine rest executable _ ⟨past, [], [], allowed, ?_, listed⟩ (checkArgs_eq_ok_iff.1 clean)
              rw [List.append_assoc]
              rfl

theorem invoke_cleared (profile : Profile) (request : InvokeRequest) :
    (invoke profile request).run.Keeps (Cleared ((Task.invoke request).errand? profile)) [] := by
  let errand : Errand := ⟨request.serviceName, request.requester, request.args⟩
  refine admitted_cleared errand fun executable past found clean => ?_
  rw [run_bind]
  refine Keeps.andThen_of_only (chooseTarget_looks profile request.serviceName)
    (fun _ _ (looks : Step.Looks _) => .inl looks.harmless) fun more outcome => ?_
  cases outcome with
  | error e => trivial
  | ok decision =>
      rw [onSuccess_ok, run_bind]
      refine (dispatch_cleared profile decision errand _ (found.append more) clean).andThen fun _ outcome => ?_
      cases outcome <;> trivial

theorem perform_cleared (profile : Profile) (x : RemoteExecution) :
    (perform profile x).run.Keeps (Cleared (some ⟨x.serviceName, x.requester, x.args⟩)) [] := by
  simp only [perform, run_bind, run_checkRequester, ask_andThen, done_andThen, keeps_ask_iff]
  refine ⟨.inl trivial, fun found => ?_⟩
  cases permission : permitted x.serviceName x.requester found with
  | error e => exact keeps_done _
  | ok =>
      simp only [onSuccess_ok, run_bind, run_verify, ask_andThen, done_andThen, keeps_ask_iff]
      refine ⟨.inl trivial, fun registered => ?_⟩
      cases verification : verified x.serviceName x.executable registered with
      | error e => exact keeps_done _
      | ok =>
          simp only [onSuccess_ok, run_bind, FallibleRequest.run_settle, done_andThen]
          cases clean : checkArgs x.args with
          | error e => exact keeps_done _
          | ok =>
              obtain ⟨allowed, rfl, listed⟩ := permitted_eq_ok_iff.1 permission
              obtain rfl := verified_eq_ok_iff.1 verification
              let errand : Errand := ⟨x.serviceName, x.requester, x.args⟩
              have seen : errand.Found x.executable _ := ⟨[], [], [], allowed, rfl, listed⟩
              refine ⟨.inr ⟨errand, _, rfl, ⟨rfl, rfl⟩, seen, checkArgs_eq_ok_iff.1 clean⟩, fun outcome => ?_⟩
              cases outcome with
              | error e => exact keeps_done _
              | ok output => exact ⟨.inl trivial, fun _ => keeps_done _⟩

theorem executeRemote_cleared (profile : Profile) (payload : Bytes) :
    (executeRemote profile payload).run.Keeps (Cleared ((Task.executeRemote payload).errand? profile)) [] := by
  rw [run_executeRemote, Task.errand?]
  cases readExecution profile.cipher payload with
  | error e => exact keeps_done _
  | ok x => exact perform_cleared profile x

theorem Task.request_cleared (profile : Profile) (task : Task) :
    (task.request profile).Keeps (Cleared (task.errand? profile)) [] := by
  have harmless {α : Type} {p : Request α} (only : p.Only Step.Harmless) :
      (steps p).Keeps (Cleared (task.errand? profile)) [] :=
    .of_only (only.andThen fun _ => trivial) fun _ _ => .inl
  cases task with
  | register service executable => exact harmless (registerService_harmless service executable)
  | store service requesters => exact harmless ⟨trivial, fun _ => trivial⟩
  | apply d => exact harmless (applyDescriptor_harmless d)
  | reload applied scan => exact harmless (reload_harmless applied scan)
  | observe a => exact harmless ⟨trivial, fun _ => trivial⟩
  | expire window => exact harmless ⟨trivial, fun _ => trivial⟩
  | close => exact harmless close_harmless
  | place service requester =>
      exact harmless ((place_looks profile service requester).mono fun _ looks => looks.harmless)
  | invoke request => exact (invoke_cleared profile request).andThen fun _ _ => trivial
  | executeRemote payload => exact (executeRemote_cleared profile payload).andThen fun _ _ => trivial

end Emplace.Device
