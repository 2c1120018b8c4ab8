import Emplace.Proofs.Device.Invoking
import Emplace.Proofs.Device.Receiving
import Emplace.Proofs.Fleet.AtMostOnce

namespace Emplace.Fleet

open Procedure Device Admission

variable {n : Nat}

def ownOf (i : Fin n) (log : List (Asked (interface n))) : List (Asked Device.interface) :=
  log.filterMap fun
    | ⟨.device k s, answer⟩ => if k = i then some ⟨s, answer⟩ else none
    | _ => none

def world (engines : Fin n → Engine) (network : List (Asked (interface n)) → String → Bytes → Fate n) :
    Surroundings (interface n)
  | past, .device i s => (engines i).world (ownOf i past) s
  | past, .carry address body => network past address body

variable {engines : Fin n → Engine} {network : List (Asked (interface n)) → String → Bytes → Fate n}

theorem result_through_of_looks (i : Fin n) {α : Type} {p : Request α} (looks : p.Only Step.Looks)
    (past : List (Asked (interface n))) :
    (p.through (carryOut (fun k => (engines k).profile) i)).result (world engines network) past =
      (engines i).result p := by
  rw [through_carryOut_of_looks _ i looks]
  unfold Engine.result
  -- What only looks is answered alike whatever was asked before, so the two pasts may differ.
  generalize [] = start
  induction p generalizing past start with
  | done a => rfl
  | ask s next ih =>
      have same : world engines network past (.device i s) = (engines i).world start s :=
        (engines i).world_of_looks looks.1 _ _
      change ((next (world engines network past (.device i s))).through (alone i)).result _ _ = _
      rw [same, result_ask]
      exact ih _ (looks.2 _) _ _

theorem answered_of_onDevice {j : Fin n} {own : List (Asked Device.interface)} {log : List (Asked (interface n))}
    (answered : ∀ entry ∈ log, ∃ past, entry = (world engines network).asked past entry.step)
    (within : own.map (onDevice j) ⊆ log) : (engines j).Answered own := by
  intro entry mem
  obtain ⟨past, eq⟩ := answered _ (within (List.mem_map_of_mem mem))
  refine ⟨ownOf j past, ?_⟩
  have same := eq_of_heq (Asked.mk.inj eq).2
  exact congrArg (Asked.mk entry.step) same

theorem map_mapError_eq_ok_iff {α β δ ε : Type} {outcome : Except δ α} {f : δ → ε} {g : α → β} {b : β} :
    (outcome.mapError f).map g = .ok b ↔ ∃ a, outcome = .ok a ∧ b = g a := by
  cases outcome with
  | error cause => exact iff_of_false (by rintro ⟨⟩) (by rintro ⟨_, ⟨⟩, _⟩)
  | ok a =>
      change Except.ok (g a) = _ ↔ _
      simp [eq_comm]

theorem map_mapError_eq_error_iff {α β δ ε : Type} {outcome : Except δ α} {f : δ → ε} {g : α → β} {e : ε} :
    (outcome.mapError f).map g = .error e ↔ ∃ cause, outcome = .error cause ∧ e = f cause := by
  cases outcome with
  | error cause =>
      change Except.error (f cause) = _ ↔ _
      simp [eq_comm]
  | ok a => exact iff_of_false (by rintro ⟨⟩) (by rintro ⟨_, ⟨⟩, _⟩)

theorem Fate.within_attempt_eq_ok_iff {engine : Engine} {fate : Fate n} {body : Bytes} {x : RemoteExecution}
    {reply : Except Failure Bytes} {limit : Duration} (address : String) (verdict : engine.Verdict body reply)
    (holds : engine.Holds body x) (back : fate.handsBack = true) (inTime : fate.delay ≤ limit)
    (output : ExecutionOutput) :
    (Http.delivery engine.profile.cipher address fate.delay (fate.attempt reply)).within limit = .ok output ↔
      engine.Admits x ∧ engine.executor x.executable x.args = .ok output := by
  cases reply with
  | error e =>
      obtain ⟨cause, nothing⟩ := Delivery.within_of_failed fate.failure.2
      refine iff_of_false (fun within => ?_) fun ⟨admits, ran⟩ => ?_
      · cases nothing.symm.trans within
      · obtain ⟨_, _, eq, -⟩ := verdict.sealed_output holds admits ran
        cases eq
  | ok reply =>
      obtain ⟨admits, out, plain, left, opening, decoding⟩ := verdict.of_reply holds
      have read := Http.readOutput_of_opened opening decoding
      simp only [attempt, back, if_true, Delivery.within_of_answered inTime, read, left, admits, true_and]

theorem Posted.transparent {i j : Fin n} {address : String} {body : Bytes} {log : List (Asked (interface n))}
    {came : Duration × Http.Attempt} {limit : Duration} {x : RemoteExecution}
    (posted : Posted (fun k => (engines k).profile) address body log came)
    (answered : ∀ entry ∈ log, ∃ past, entry = (world engines network).asked past entry.step)
    (delivers : ∀ past, (network past address body).receiver = some j ∧ (network past address body).handsBack = true ∧
      (network past address body).delay ≤ limit)
    (alike : (engines i).profile.cipher = (engines j).profile.cipher)
    (reading : readExecution (engines i).profile.cipher body = .ok x) :
    (∀ output, (Http.delivery (engines i).profile.cipher address came.1 came.2).within limit = .ok output ↔
      (engines j).Admits x ∧ (engines j).executor x.executable x.args = .ok output) ∧
    ((engines j).Admits x → runs log = [(j, (engines j).ranFor x)]) ∧ (¬(engines j).Admits x → runs log = []) := by
  cases posted with
  | @lost fate nobody =>
      obtain ⟨past, eq⟩ := answered _ List.mem_cons_self
      obtain rfl : fate = network past address body := eq_of_heq (Asked.mk.inj eq).2
      cases nobody.symm.trans (delivers past).1
  | @executed fate k own reply reached receipt =>
      obtain ⟨past, eq⟩ := answered _ List.mem_cons_self
      obtain rfl : fate = network past address body := eq_of_heq (Asked.mk.inj eq).2
      -- The bytes reached the engine they were meant for, and it reads what the sender sealed.
      obtain ⟨there, back, inTime⟩ := delivers past
      obtain rfl := Option.some.inj (reached.symm.trans there)
      rw [alike] at reading
      have holds := Device.Engine.readExecution_eq_ok_iff.1 reading
      have asked : (engines k).Answered own := answered_of_onDevice answered (List.subset_cons_self _ _)
      cases receipt with
      | unread fault => cases fault.symm.trans reading
      | read again performance =>
          obtain rfl := Except.ok.inj (again.symm.trans reading)
          obtain ⟨verdict, ran⟩ := Device.Engine.verdict_of_performance performance asked holds
          refine ⟨fun output => ?_, fun admits => ?_, fun refused => ?_⟩
          · rw [alike]
            exact Fate.within_attempt_eq_ok_iff address verdict holds back inTime output
          · rcases ran with ⟨-, once⟩ | ⟨refused, -⟩
            · rw [runs_cons rfl, runs_onDevice, once]
              rfl
            · exact (refused admits).elim
          · rcases ran with ⟨admits, -⟩ | ⟨-, never⟩
            · exact (refused admits).elim
            · rw [runs_cons rfl, runs_onDevice, never]
              rfl

theorem invoke_of_placed (network : List (Asked (interface n)) → String → Bytes → Fate n) (i : Fin n)
    (request : InvokeRequest) {executable : String} {decision : PlacementDecision} (remote : decision.isLocal = false)
    (listed : (engines i).Lists request.serviceName request.requester)
    (registered : (engines i).tables.commands.get? request.serviceName = some executable)
    (clean : ∀ arg ∈ request.args, ¬CarriesOperator arg)
    (chosen : (engines i).result (chooseTarget (engines i).profile request.serviceName).run = .ok decision) :
    let outcome := invoke (fun k => (engines k).profile) i request
    let limit := (request.timeoutMs.map fun ms => Duration.ofMillis ms.toNat).getD (engines i).profile.limit
    ∃ body more came, readExecution (engines i).profile.cipher body =
        .ok ⟨request.serviceName, request.requester, executable, request.args⟩ ∧
      Posted (fun k => (engines k).profile) decision.targetAddress body more came ∧
      (∀ entry ∈ more, ∃ past, entry = (world engines network).asked past entry.step) ∧
      runs (outcome.transcript (world engines network) []) = runs more ∧
      outcome.result (world engines network) [] =
        (((Http.delivery (engines i).profile.cipher decision.targetAddress came.1 came.2).within limit).mapError
          (Failure.dispatchFailed decision.targetDeviceId)).map
            fun output => ⟨request.serviceName, decision.targetDeviceId, false, output⟩ := by
  intro outcome limit
  let step := carryOut (fun k => (engines k).profile) i
  let admission := (admitted request.serviceName request.requester request.args).run.through step
  let placement := (chooseTarget (engines i).profile request.serviceName).run.through step
  let before := [] ++ admission.transcript (world engines network) []
  -- Admission and placement come to what they come to on the device, and leave no run behind.
  have first : admission.result (world engines network) [] = .ok executable :=
    (result_through_of_looks i (admitted_looks ..) []).trans (Device.Engine.result_admitted listed registered clean)
  have second : placement.result (world engines network) before = .ok decision :=
    (result_through_of_looks i (chooseTarget_looks ..) before).trans chosen
  have quiet := (quiet_of_looks (fun k => (engines k).profile) i (admitted_looks request.serviceName request.requester
    request.args)).played (world engines network) []
  have still := (quiet_of_looks (fun k => (engines k).profile) i (chooseTarget_looks (engines i).profile
    request.serviceName)).played (world engines network) before
  -- What is left is the dispatch.
  let execution : RemoteExecution := ⟨request.serviceName, request.requester, executable, request.args⟩
  let limit? := request.timeoutMs.map fun ms => Duration.ofMillis ms.toNat
  let carried := (dispatch (engines i).profile decision execution limit?).run.through step
  let past := before ++ placement.transcript (world engines network) before
  have asked := exists_asked_of_mem (world engines network) past carried
  obtain ⟨nonce, body, more, came, logged, reading, posted, delivered⟩ :=
    (dispatch_posted (fun k => (engines k).profile) i remote execution limit?).played (world engines network) past
  refine ⟨body, more, came, reading, posted, fun entry mem => ?_, ?_, ?_⟩
  · refine asked entry ?_
    rw [show carried.transcript (world engines network) past = _ from logged]
    exact List.mem_cons_of_mem _ mem
  · have same : runs (carried.transcript (world engines network) past) = runs more := by
      rw [show carried.transcript (world engines network) past = _ from logged, runs_cons rfl]
    rw [← same]
    simp only [outcome, invoke, Device.invoke]
    rw [run_bind, through_andThen, transcript_andThen, first, onSuccess_ok, run_bind, through_andThen,
      transcript_andThen, second, onSuccess_ok, run_bind_pure, through_andThen, transcript_andThen, runs_append,
      quiet.1, List.nil_append, runs_append, still.1, List.nil_append]
    exact congrArg runs (List.append_nil _)
  · rw [← remote, ← show carried.result (world engines network) past = _ from delivered]
    simp only [outcome, invoke, Device.invoke]
    rw [run_bind, through_andThen, result_andThen, first, onSuccess_ok]
    rw [run_bind, through_andThen, result_andThen, second, onSuccess_ok]
    rw [run_bind_pure, through_andThen, result_andThen]
    rfl

/-- An invocation that is admitted here and placed on another device succeeds exactly if that device lists the
requester, registered the same executable, and runs it without failing. -/
theorem forwarding_transparent (engines : Fin n → Engine)
    (network : List (Asked (interface n)) → String → Bytes → Fate n) (i j : Fin n) (request : InvokeRequest)
    (address : String) (alike : (engines i).profile.cipher = (engines j).profile.cipher)
    (clean : ∀ arg ∈ request.args, ¬CarriesOperator arg)
    (placed : (engines i).result (place (engines i).profile request.serviceName request.requester).run =
      .ok ⟨(engines j).profile.id, address, false⟩)
    (delivers : ∀ past body, (network past address body).receiver = some j ∧
      (network past address body).handsBack = true ∧
      (network past address body).delay ≤
        (request.timeoutMs.map fun ms => Duration.ofMillis ms.toNat).getD (engines i).profile.limit) :
    let outcome := invoke (fun k => (engines k).profile) i request
    let log := outcome.transcript (world engines network) []
    let result := outcome.result (world engines network) []
    ∃ executable, (engines i).Agrees request.serviceName request.requester executable ∧
      (∀ response, result = .ok response ↔ (engines j).Agrees request.serviceName request.requester executable ∧
        ∃ output, (engines j).executor executable request.args = .ok output ∧
          response = ⟨request.serviceName, (engines j).profile.id, false, output⟩) ∧
      (∀ e, result = .error e → ∃ cause, e = .dispatchFailed (engines j).profile.id cause) ∧
      ((engines j).Agrees request.serviceName request.requester executable →
        runs log = [(j, ⟨executable, request.args, (engines j).executor executable request.args⟩)]) ∧
      (¬(engines j).Agrees request.serviceName request.requester executable → runs log = []) ∧
      ((engines j).tables.allowLists.get? request.serviceName = (engines i).tables.allowLists.get? request.serviceName →
        (engines j).tables.commands.get? request.serviceName = (engines i).tables.commands.get? request.serviceName →
        (engines j).Agrees request.serviceName request.requester executable) := by
  intro outcome log result
  obtain ⟨listed, executable, registered, chosen⟩ := Device.Engine.of_placed placed
  refine ⟨executable, ⟨listed, registered⟩, ?_⟩
  let x : RemoteExecution := ⟨request.serviceName, request.requester, executable, request.args⟩
  have admits : (engines j).Admits x ↔ _ := Device.Engine.admits_iff_agrees clean
  obtain ⟨body, more, came, reading, posted, answered, runs_eq, result_eq⟩ :=
    invoke_of_placed network i request rfl listed registered clean chosen
  obtain ⟨gets, ran, spared⟩ := posted.transparent answered (fun past => delivers past body) alike reading
  have result_eq : result = _ := result_eq
  have runs_eq : runs log = runs more := runs_eq
  rw [result_eq, runs_eq]
  refine ⟨fun response => ?_, fun e eq => ?_, fun agrees => ran (admits.2 agrees), fun refused => ?_, ?_⟩
  · rw [map_mapError_eq_ok_iff]
    constructor
    · rintro ⟨output, within, rfl⟩
      obtain ⟨admitted, left⟩ := (gets output).1 within
      exact ⟨admits.1 admitted, output, left, rfl⟩
    · rintro ⟨agrees, output, left, rfl⟩
      exact ⟨output, (gets output).2 ⟨admits.2 agrees, left⟩, rfl⟩
  · obtain ⟨cause, -, eq⟩ := map_mapError_eq_error_iff.1 eq
    exact ⟨cause, eq⟩
  · exact spared fun admitted => refused (admits.1 admitted)
  · intro sameList sameCommand
    obtain ⟨allowed, found, mem⟩ := listed
    exact ⟨⟨allowed, sameList.trans found, mem⟩, sameCommand.trans registered⟩

theorem length_zeros : (List.replicate 12 (0 : UInt8)).length = 12 := rfl

def pair (k : Fin 2) : Engine where
  profile := ⟨if k.val = 0 then "a" else "b", if k.val = 0 then "a:80" else "b:80", .passThrough, ⟨1⟩, []⟩
  tables := {
    commands := .insert .empty "weather" "uname"
    allowLists := .store .empty "weather" ["amy"]
    peers := (PeerTable.empty.observe "a" ⟨0, 0⟩ ⟨"b", "b:80", ⟨"b", 1.0, 0⟩⟩).2
    closed := false }
  now := ⟨0, 0⟩
  gauges _ := .error (.unavailable "off")
  executor _ _ := .ok ⟨some 0, "Linux", ""⟩
  others
    | _, .sample _ => .error (.unavailable "off")
    | _, .release => ()
    | _, .stamp => 0
    | _, .nonce => ⟨List.replicate 12 0, length_zeros⟩
    | _, .execute .. => .ok ⟨some 0, "Linux", ""⟩
    | _, .send .. => ⟨none, .error (.http "request")⟩
    | _, .announce .. => .silent

theorem forwarding_transparent_pair :
    (invoke (fun k => (pair k).profile) 0 ⟨"weather", "amy", ["-a"], none⟩).result
      (world pair fun _ _ _ => ⟨some 1, true, ⟨.silent, rfl⟩, ⟨0⟩⟩) [] =
        .ok ⟨"weather", "b", false, ⟨some 0, "Linux", ""⟩⟩ := by
  obtain ⟨executable, -, success, -, -, -, same⟩ := forwarding_transparent pair
    (fun _ _ _ => ⟨some 1, true, ⟨.silent, rfl⟩, ⟨0⟩⟩) 0 1 ⟨"weather", "amy", ["-a"], none⟩ "b:80" rfl
    (checkArgs_eq_ok_iff.1 rfl) rfl fun _ _ => ⟨rfl, rfl, Nat.zero_le _⟩
  exact (success _).2 ⟨same rfl rfl, _, rfl, rfl⟩

end Emplace.Fleet
