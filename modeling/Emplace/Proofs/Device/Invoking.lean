import Emplace.Proofs.Device.Engine
import Emplace.Proofs.Device.Placing
import Emplace.Proofs.Device.Sampling

/-!
# How invocations end

The first stage that fails decides what an invocation comes to, and nothing is asked after it: the allow-list, the
registration, the arguments, the choice of a target, and last the dispatch (`Engine.invoke_staged`). Placement by itself
passes the same first two stages and chooses the same target, and screens no arguments.
-/

namespace Emplace.Device

open Procedure Admission Placement

namespace Engine

variable {α β : Type} {engine : Engine} {service requester executable : String} {args : List String}

/-! ## Stages -/

def read (engine : Engine) (a : Access) : Asked interface :=
  ⟨Step.access a, (engine.tables.apply engine.profile.id engine.now a).1⟩

/-- All that the choice of a target asks: one scoring of the device against itself, and then its peers. -/
def weighing (engine : Engine) : List (Asked interface) :=
  engine.transcript (score engine.profile.id) ++ [engine.read .peers]

def decided (engine : Engine) (service : String) : Except Failure PlacementDecision :=
  engine.result (chooseTarget engine.profile service).run

def report (request : InvokeRequest) (decision : PlacementDecision) :
    Except DispatchError ExecutionOutput → Except Failure InvokeResponse
  | .ok output => .ok ⟨request.serviceName, decision.targetDeviceId, decision.isLocal, output⟩
  | .error cause => .error (.dispatchFailed decision.targetDeviceId cause)

def execution (request : InvokeRequest) (executable : String) : RemoteExecution :=
  ⟨request.serviceName, request.requester, executable, request.args⟩

def delivered (engine : Engine) (past : List (Asked interface)) (address : String) (x : RemoteExecution) : Delivery :=
  engine.others past (.send address x engine.profile.cipher)

theorem plays_checkRequester (engine : Engine) (past : List (Asked interface)) (service requester : String) :
    Plays engine.world past (checkRequester service requester).run [engine.read (.allowList service)]
      (permitted service requester (engine.tables.allowLists.get? service)) := ⟨rfl, rfl⟩

theorem plays_resolve (engine : Engine) (past : List (Asked interface)) (service : String) :
    Plays engine.world past (resolve service).run [engine.read (.command service)]
      (resolved service (engine.tables.commands.get? service)) := ⟨rfl, rfl⟩

theorem transcript_chooseTarget (engine : Engine) (service : String) :
    engine.transcript (chooseTarget engine.profile service).run = engine.weighing :=
  (plays_chooseTarget engine.world [] engine.profile service).1

theorem plays_decided (engine : Engine) (past : List (Asked interface)) (service : String) :
    Plays engine.world past (chooseTarget engine.profile service).run engine.weighing (engine.decided service) := by
  rw [← engine.transcript_chooseTarget service]
  exact engine.plays_of_looks (chooseTarget_looks ..) past

theorem eq_noEligibleTarget_of_decided {e : Failure} (nowhere : engine.decided service = .error e) :
    e = .noEligibleTarget service := by
  rw [decided, result, result_chooseTarget] at nowhere
  generalize select _ _ = choice at nowhere
  cases choice <;> cases nowhere
  rfl

theorem weighing_course (engine : Engine) :
    ∃ log outcome, Course engine.profile.id engine.tables.closed log outcome ∧
      Plays engine.world [] (score engine.profile.id) log (valueOf (outcome.map Scoring.total)) ∧
      engine.weighing = log ++ [engine.read .peers] ∧
      ∀ service, engine.decided service = placed service
        (select ⟨engine.profile.id, engine.profile.address, valueOf (outcome.map Scoring.total)⟩
          engine.tables.peers.registry.snapshot) := by
  obtain ⟨log, outcome, course, -, -, scored⟩ := plays_course engine.world [] engine.profile.id
  refine ⟨log, outcome, course, scored, ?_, fun service => ?_⟩
  · rw [weighing, transcript, scored.1]
  · rw [decided, result, result_chooseTarget, scored.2]
    rfl

/-! ## The gate -/

def gate (engine : Engine) (service : String) : List (Asked interface) :=
  [engine.read (.allowList service), engine.read (.command service)]

/-- A request that is turned away with `e` at admission, having asked `log` and nothing else. -/
def TurnedAway (engine : Engine) (p : Request (Except Failure α)) (log : List (Asked interface)) (e : Failure) : Prop :=
  e.isAdmission = true ∧ Plays engine.world [] p log (.error e)

structure Gated (engine : Engine) (service requester : String) (p : Request (Except Failure α)) : Prop where
  unknown : engine.tables.allowLists.get? service = none →
    engine.TurnedAway p [engine.read (.allowList service)] (.serviceNotRegistered service)
  unlisted : ∀ allowed, engine.tables.allowLists.get? service = some allowed → requester ∉ allowed →
    engine.TurnedAway p [engine.read (.allowList service)] (.requesterNotAllowed service requester)
  unregistered : engine.Lists service requester → engine.tables.commands.get? service = none →
    engine.TurnedAway p (engine.gate service) (.serviceNotRegistered service)

theorem gated (g : String → FallibleRequest α) :
    engine.Gated service requester (checkRequester service requester >>= fun _ => resolve service >>= g).run where
  unknown absent := by
    have refusal := engine.plays_checkRequester [] service requester
    rw [absent] at refusal
    exact ⟨rfl, refusal.bind_error⟩
  unlisted allowed inForce absent := by
    have refusal := engine.plays_checkRequester [] service requester
    rw [inForce, permitted, if_neg absent] at refusal
    exact ⟨rfl, refusal.bind_error⟩
  unregistered listed absent := by
    have passes := engine.plays_checkRequester [] service requester
    have refusal := engine.plays_resolve ([] ++ [engine.read (.allowList service)]) service
    rw [permitted_eq_ok_iff_lists.2 listed] at passes
    rw [absent] at refusal
    exact ⟨rfl, passes.bind refusal.bind_error⟩

theorem Lists.plays {g : String → FallibleRequest α} {log : List (Asked interface)} {outcome : Except Failure α}
    (listed : engine.Lists service requester)
    (registered : engine.tables.commands.get? service = some executable)
    (rest : Plays engine.world (engine.gate service) (g executable).run log outcome) :
    Plays engine.world [] (checkRequester service requester >>= fun _ => resolve service >>= g).run
      (engine.gate service ++ log) outcome := by
  have passes := engine.plays_checkRequester [] service requester
  have resolves := engine.plays_resolve ([] ++ [engine.read (.allowList service)]) service
  rw [permitted_eq_ok_iff_lists.2 listed] at passes
  rw [registered] at resolves
  exact passes.bind (resolves.bind rest)

theorem Gated.passed_or_turnedAway {p : Request (Except Failure α)} (gated : engine.Gated service requester p) :
    (engine.Lists service requester ∧ ∃ executable, engine.tables.commands.get? service = some executable) ∨
      ∃ log e, engine.TurnedAway p log e := by
  cases found : engine.tables.allowLists.get? service with
  | none => exact .inr ⟨_, _, gated.unknown found⟩
  | some allowed =>
      by_cases mem : requester ∈ allowed
      · have listed : engine.Lists service requester := ⟨allowed, found, mem⟩
        cases registered : engine.tables.commands.get? service with
        | none => exact .inr ⟨_, _, gated.unregistered listed registered⟩
        | some executable => exact .inl ⟨listed, executable, rfl⟩
      · exact .inr ⟨_, _, gated.unlisted allowed found mem⟩

/-! ## Placement and admission by themselves -/

theorem gated_place (engine : Engine) (service requester : String) :
    engine.Gated service requester (place engine.profile service requester).run :=
  gated fun _ => chooseTarget engine.profile service

theorem plays_place (listed : engine.Lists service requester)
    (registered : engine.tables.commands.get? service = some executable) :
    Plays engine.world [] (place engine.profile service requester).run (engine.gate service ++ engine.weighing)
      (engine.decided service) :=
  listed.plays registered (engine.plays_decided (engine.gate service) service)

theorem of_placed {decision : PlacementDecision}
    (placed : engine.result (place engine.profile service requester).run = .ok decision) :
    engine.Lists service requester ∧ ∃ executable, engine.tables.commands.get? service = some executable ∧
      engine.decided service = .ok decision := by
  rcases (engine.gated_place service requester).passed_or_turnedAway with ⟨listed, executable, registered⟩ | turnedAway
  · have plays := plays_place listed registered
    exact ⟨listed, executable, registered, plays.2.symm.trans placed⟩
  · obtain ⟨log, e, -, plays⟩ := turnedAway
    cases placed.symm.trans plays.2

theorem plays_checkArgs (engine : Engine) {outcome : Except Failure Unit} (screened : checkArgs args = outcome)
    (past : List (Asked interface)) :
    Plays engine.world past (FallibleRequest.settle (checkArgs args)).run [] outcome := ⟨rfl, screened⟩

theorem result_admitted (listed : engine.Lists service requester)
    (registered : engine.tables.commands.get? service = some executable)
    (clean : ∀ arg ∈ args, ¬CarriesOperator arg) :
    engine.result (admitted service requester args).run = .ok executable := by
  have screened := engine.plays_checkArgs (checkArgs_eq_ok_iff.2 clean) (engine.gate service)
  exact (listed.plays registered (screened.bind ⟨rfl, rfl⟩)).2

/-! ## Behind the gate -/

variable {request : InvokeRequest} {decision : PlacementDecision} {past : List (Asked interface)} {x : RemoteExecution}
  {limit? : Option Duration}

theorem plays_dispatch_here (isLocal : decision.isLocal = true) :
    Plays engine.world past (dispatch engine.profile decision x limit?).run
      [⟨Step.call (.execute x.executable x.args), engine.executor x.executable x.args⟩]
      ((engine.executor x.executable x.args).mapError (.dispatchFailed decision.targetDeviceId)) := by
  rw [run_dispatch, if_pos isLocal]
  exact ⟨rfl, rfl⟩

theorem plays_dispatch_away (remote : decision.isLocal = false) :
    Plays engine.world past (dispatch engine.profile decision x limit?).run
      [⟨Step.call (.send decision.targetAddress x engine.profile.cipher),
        engine.delivered past decision.targetAddress x⟩]
      (((engine.delivered past decision.targetAddress x).within (limit?.getD engine.profile.limit)).mapError
        (.dispatchFailed decision.targetDeviceId)) := by
  rw [run_dispatch, if_neg (by simp [remote])]
  exact ⟨rfl, rfl⟩

def placeAndRun (profile : Profile) (request : InvokeRequest) (executable : String) : FallibleRequest InvokeResponse := do
  let decision ← chooseTarget profile request.serviceName
  let output ← dispatch profile decision (execution request executable)
    (request.timeoutMs.map fun ms => Duration.ofMillis ms.toNat)
  return ⟨request.serviceName, decision.targetDeviceId, decision.isLocal, output⟩

theorem invoke_eq (profile : Profile) (request : InvokeRequest) :
    invoke profile request = (do
      checkRequester request.serviceName request.requester
      let executable ← resolve request.serviceName
      FallibleRequest.settle (checkArgs request.args)
      placeAndRun profile request executable) := by
  simp only [invoke, admitted, bind_assoc, pure_bind]
  rfl

theorem Admits.plays {log : List (Asked interface)} {outcome : Except Failure InvokeResponse}
    (admits : engine.Admits (execution request executable))
    (rest : Plays engine.world (engine.gate request.serviceName) (placeAndRun engine.profile request executable).run log
      outcome) :
    Plays engine.world [] (invoke engine.profile request).run (engine.gate request.serviceName ++ log) outcome := by
  have screened := engine.plays_checkArgs (checkArgs_eq_ok_iff.2 admits.clean) (engine.gate request.serviceName)
  -- The screening leaves nothing in the log, so that the rest goes on right behind the gate.
  rw [← List.append_nil (engine.gate request.serviceName)] at rest
  rw [invoke_eq]
  exact admits.listed.plays admits.registered (screened.bind rest)

theorem plays_placeAndRun {asked : Asked interface} {outcome : Except DispatchError ExecutionOutput}
    (chosen : engine.decided request.serviceName = .ok decision)
    (dispatched : Plays engine.world (past ++ engine.weighing)
      (dispatch engine.profile decision (execution request executable)
        (request.timeoutMs.map fun ms => Duration.ofMillis ms.toNat)).run
      [asked] (outcome.mapError (.dispatchFailed decision.targetDeviceId))) :
    Plays engine.world past (placeAndRun engine.profile request executable).run (engine.weighing ++ [asked])
      (report request decision outcome) := by
  have decides := engine.plays_decided past request.serviceName
  rw [chosen] at decides
  refine decides.bind ?_
  -- Only an output is put into a response; an error is reported as it is.
  cases outcome with
  | error cause => exact dispatched.bind_error
  | ok output =>
      rw [← List.append_nil [asked]]
      exact dispatched.bind ⟨rfl, rfl⟩

theorem turnedAway_of_unclean {clean rest : List String} {arg : String}
    (listed : engine.Lists request.serviceName request.requester)
    (registered : engine.tables.commands.get? request.serviceName = some executable)
    (split : request.args = clean ++ arg :: rest) (before : ∀ earlier ∈ clean, ¬CarriesOperator earlier)
    (carries : CarriesOperator arg) :
    engine.TurnedAway (invoke engine.profile request).run (engine.gate request.serviceName)
      (.invalidCommand (.shellOperator arg)) := by
  have refused : checkArgs request.args = .error (.invalidCommand (.shellOperator arg)) :=
    checkArgs_eq_error_iff.2 ⟨clean, arg, rest, split, before, carries, rfl⟩
  have refusal := engine.plays_checkArgs refused (engine.gate request.serviceName)
  refine ⟨rfl, ?_⟩
  rw [← List.append_nil (engine.gate request.serviceName), invoke_eq]
  exact listed.plays registered refusal.bind_error

theorem gated_invoke (engine : Engine) (request : InvokeRequest) :
    engine.Gated request.serviceName request.requester (invoke engine.profile request).run := by
  rw [invoke_eq]
  exact gated _

theorem Admits.nowhere {e : Failure} (admits : engine.Admits (execution request executable))
    (nowhere : engine.decided request.serviceName = .error e) :
    Plays engine.world [] (invoke engine.profile request).run (engine.gate request.serviceName ++ engine.weighing)
      (.error e) := by
  have decides := engine.plays_decided (engine.gate request.serviceName) request.serviceName
  rw [nowhere] at decides
  exact admits.plays decides.bind_error

theorem Admits.here (admits : engine.Admits (execution request executable))
    (chosen : engine.decided request.serviceName = .ok decision) (isLocal : decision.isLocal = true) :
    Plays engine.world [] (invoke engine.profile request).run
      (engine.gate request.serviceName ++ engine.weighing ++
        [⟨Step.call (.execute executable request.args), engine.executor executable request.args⟩])
      (report request decision (engine.executor executable request.args)) := by
  rw [List.append_assoc]
  exact admits.plays (plays_placeAndRun chosen (plays_dispatch_here isLocal))

theorem Admits.away (admits : engine.Admits (execution request executable))
    (chosen : engine.decided request.serviceName = .ok decision) (remote : decision.isLocal = false) :
    let delivery := engine.delivered (engine.gate request.serviceName ++ engine.weighing) decision.targetAddress
      (execution request executable)
    Plays engine.world [] (invoke engine.profile request).run
      (engine.gate request.serviceName ++ engine.weighing ++
        [⟨Step.call (.send decision.targetAddress (execution request executable) engine.profile.cipher), delivery⟩])
      (report request decision
        (delivery.within ((request.timeoutMs.map fun ms => Duration.ofMillis ms.toNat).getD engine.profile.limit))) := by
  intro delivery
  rw [List.append_assoc]
  exact admits.plays (plays_placeAndRun chosen (plays_dispatch_away remote))

/-! ## Which failures are of admission -/

theorem not_isAdmission_of_report {outcome : Except DispatchError ExecutionOutput} {e : Failure}
    (failed : report request decision outcome = .error e) : e.isAdmission = false := by
  cases outcome <;> cases failed
  rfl

theorem Admits.not_isAdmission {e : Failure} (admits : engine.Admits (execution request executable))
    (failed : engine.result (invoke engine.profile request).run = .error e) : e.isAdmission = false := by
  cases chosen : engine.decided request.serviceName with
  | error cause =>
      obtain rfl := Except.error.inj (failed.symm.trans (admits.nowhere chosen).2)
      rw [eq_noEligibleTarget_of_decided chosen]
      rfl
  | ok decision =>
      cases placed : decision.isLocal with
      | true => exact not_isAdmission_of_report ((admits.here chosen placed).2.symm.trans failed)
      | false => exact not_isAdmission_of_report ((admits.away chosen placed).2.symm.trans failed)

theorem admits_or_turnedAway (engine : Engine) (request : InvokeRequest) :
    (∃ executable, engine.Admits (execution request executable)) ∨
      ∃ log e, engine.TurnedAway (invoke engine.profile request).run log e := by
  rcases (engine.gated_invoke request).passed_or_turnedAway with ⟨listed, executable, registered⟩ | turnedAway
  · cases screened : checkArgs request.args with
    | ok => exact .inl ⟨executable, listed, registered, checkArgs_eq_ok_iff.1 screened⟩
    | error e =>
        obtain ⟨clean, arg, rest, split, before, carries, rfl⟩ := checkArgs_eq_error_iff.1 screened
        exact .inr ⟨_, _, turnedAway_of_unclean listed registered split before carries⟩
  · exact .inr turnedAway

/-! ## The result -/

/-- How an invocation ends, and all that it asks until then, by the first stage that fails; and the same of placement by
itself. -/
structure Staged (engine : Engine) (request : InvokeRequest) : Prop where
  gated : engine.Gated request.serviceName request.requester (invoke engine.profile request).run
  unclean : ∀ executable clean arg rest, engine.Lists request.serviceName request.requester →
    engine.tables.commands.get? request.serviceName = some executable → request.args = clean ++ arg :: rest →
    (∀ earlier ∈ clean, ¬CarriesOperator earlier) → CarriesOperator arg →
    engine.TurnedAway (invoke engine.profile request).run (engine.gate request.serviceName)
      (.invalidCommand (.shellOperator arg))
  nowhere : ∀ executable e, engine.Admits (execution request executable) →
    engine.decided request.serviceName = .error e → e = .noEligibleTarget request.serviceName ∧
    Plays engine.world [] (invoke engine.profile request).run (engine.gate request.serviceName ++ engine.weighing)
      (.error e)
  here : ∀ executable decision, engine.Admits (execution request executable) →
    engine.decided request.serviceName = .ok decision → decision.isLocal = true →
    Plays engine.world [] (invoke engine.profile request).run
      (engine.gate request.serviceName ++ engine.weighing ++
        [⟨Step.call (.execute executable request.args), engine.executor executable request.args⟩])
      (report request decision (engine.executor executable request.args))
  away : ∀ executable decision delivery, engine.Admits (execution request executable) →
    engine.decided request.serviceName = .ok decision → decision.isLocal = false →
    engine.delivered (engine.gate request.serviceName ++ engine.weighing) decision.targetAddress
      (execution request executable) = delivery →
    Plays engine.world [] (invoke engine.profile request).run
      (engine.gate request.serviceName ++ engine.weighing ++
        [⟨Step.call (.send decision.targetAddress (execution request executable) engine.profile.cipher), delivery⟩])
      (report request decision
        (delivery.within ((request.timeoutMs.map fun ms => Duration.ofMillis ms.toNat).getD engine.profile.limit)))
  classified : ∀ e, engine.result (invoke engine.profile request).run = .error e →
    (e.isAdmission = true ↔ ¬∃ executable, engine.Admits (execution request executable))
  scored : engine.weighing.filterMap sampled? <+: gaugesFor engine.profile.id
  course : ∃ log outcome, Course engine.profile.id engine.tables.closed log outcome ∧
    Plays engine.world [] (score engine.profile.id) log (valueOf (outcome.map Scoring.total)) ∧
    engine.weighing = log ++ [engine.read .peers] ∧
    ∀ service, engine.decided service = placed service
      (select ⟨engine.profile.id, engine.profile.address, valueOf (outcome.map Scoring.total)⟩
        engine.tables.peers.registry.snapshot)
  placeGated : engine.Gated request.serviceName request.requester
    (place engine.profile request.serviceName request.requester).run
  placed : ∀ executable, engine.Lists request.serviceName request.requester →
    engine.tables.commands.get? request.serviceName = some executable →
    Plays engine.world [] (place engine.profile request.serviceName request.requester).run
      (engine.gate request.serviceName ++ engine.weighing) (engine.decided request.serviceName)

theorem invoke_staged (engine : Engine) (request : InvokeRequest) : engine.Staged request where
  gated := engine.gated_invoke request
  unclean executable clean arg rest listed registered split before carries :=
    turnedAway_of_unclean listed registered split before carries
  nowhere executable e admits nowhere := ⟨eq_noEligibleTarget_of_decided nowhere, admits.nowhere nowhere⟩
  here executable decision admits chosen isLocal := admits.here chosen isLocal
  away executable decision delivery admits chosen remote delivered := delivered ▸ admits.away chosen remote
  classified e failed := by
    constructor
    · rintro admission ⟨executable, admits⟩
      rw [admits.not_isAdmission failed] at admission
      cases admission
    · intro refused
      rcases engine.admits_or_turnedAway request with admits | ⟨log, cause, admission, turnedAway⟩
      · exact (refused admits).elim
      · rwa [Except.error.inj (failed.symm.trans turnedAway.2)]
  scored := by
    obtain ⟨log, outcome, course, -, weighed, -⟩ := engine.weighing_course
    rw [weighed, List.filterMap_append]
    exact (List.append_nil _).symm ▸ course.prefix
  course := engine.weighing_course
  placeGated := engine.gated_place request.serviceName request.requester
  placed executable listed registered := plays_place listed registered

end Engine

end Emplace.Device
