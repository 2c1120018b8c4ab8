import Emplace.Proofs.Fleet.Forwarding

/-!
# One run and one hop

Whatever the devices of a fleet hold, whatever their capabilities answer and whatever the network does, one invocation
makes the whole fleet run at most one executable and hand its bytes over at most once (`invoke_at_most_once`). A
receiver only executes: it never places, forwards or tries again, and neither does the sender when a delivery fails.
-/

namespace Emplace.Fleet

open Procedure Device

variable {n : Nat} (profiles : Fin n → Profile) (i : Fin n)

theorem quiet_of_looks {α : Type} {p : Request α} (looks : p.Only Step.Looks) :
    (p.through (carryOut profiles i)).Always fun log _ => runs log = [] ∧ hops log = 0 := by
  rw [through_carryOut_of_looks profiles i looks]
  refine (Always.through_alone i (.of_only looks)).mono ?_
  rintro _ _ ⟨own, rfl, each⟩
  have still : ∀ entry ∈ own, Device.ran? entry = none ∧ sends entry = false := by
    rintro ⟨s, answer⟩ mem
    have looks := each _ mem
    cases s with
    | access a => exact ⟨rfl, rfl⟩
    | call c => cases c <;> first | exact ⟨rfl, rfl⟩ | exact looks.elim
  rw [runs_onDevice, hops_onDevice, List.filterMap_eq_nil_iff.2 fun entry mem => (still entry mem).1]
  refine ⟨rfl, List.countP_eq_zero.2 fun entry mem => ?_⟩
  simp [(still entry mem).2]

structure AtMostOnce (log : List (Asked (interface n))) (result : Except Failure InvokeResponse) : Prop where
  once : (runs log).length ≤ 1
  oneHop : hops log ≤ 1
  success : ∀ response, result = .ok response →
    ∃ j run output, runs log = [(j, run)] ∧ run.outcome = .ok output ∧
      (response.isLocal = true → j = i ∧ hops log = 0) ∧
      (response.isLocal = false →
        ∃ address body, ∃ fate : Fate n, ⟨.carry address body, fate⟩ ∈ log ∧ fate.receiver = some j) ∧
      (response.isLocal = true ∨ (profiles i).cipher = (profiles j).cipher → response.output = output)
  refusal : ∀ e, result = .error e → e.kind ≠ "dispatch_failed" → runs log = [] ∧ hops log = 0

variable {profiles i} {log more : List (Asked (interface n))} {result : Except Failure InvokeResponse}

theorem AtMostOnce.of_quiet {e : Failure} (quiet : runs log = [] ∧ hops log = 0) :
    AtMostOnce profiles i log (.error e) := by
  refine ⟨?_, ?_, fun _ eq => ?_, fun _ _ _ => quiet⟩
  · simp [quiet.1]
  · simp [quiet.2]
  · cases eq

theorem AtMostOnce.after_quiet (quiet : runs log = [] ∧ hops log = 0) (rest : AtMostOnce profiles i more result) :
    AtMostOnce profiles i (log ++ more) result := by
  have sameRuns : runs (log ++ more) = runs more := by rw [runs_append, quiet.1, List.nil_append]
  have sameHops : hops (log ++ more) = hops more := by rw [hops_append, quiet.2, Nat.zero_add]
  refine ⟨sameRuns ▸ rest.once, sameHops ▸ rest.oneHop, fun response eq => ?_, fun e eq other => ?_⟩
  · obtain ⟨j, run, output, ran, outcome, here, there, same⟩ := rest.success response eq
    refine ⟨j, run, output, sameRuns.trans ran, outcome, sameHops ▸ here, fun remote => ?_, same⟩
    obtain ⟨address, body, fate, mem, reached⟩ := there remote
    exact ⟨address, body, fate, List.mem_append_right log mem, reached⟩
  · rw [sameRuns, sameHops]
    exact rest.refusal e eq other

variable (profiles i)

theorem Posted.runs_hops {address : String} {body : Bytes} {came : Duration × Http.Attempt}
    (posted : Posted profiles address body log came) : (runs log).length ≤ 1 ∧ hops log = 1 := by
  cases posted with
  | lost => exact ⟨Nat.zero_le 1, rfl⟩
  | @executed fate j own reply reached receipt =>
      have handed : hops (⟨.carry address body, fate⟩ :: own.map (onDevice j)) = hops (own.map (onDevice j)) + 1 :=
        List.countP_cons_of_pos rfl
      rw [runs_cons rfl, handed, runs_onDevice, hops_onDevice, List.length_map, receipt.performed.1]
      exact ⟨receipt.performed.2.1, rfl⟩

theorem Posted.success {address : String} {body : Bytes} {came : Duration × Http.Attempt} {limit : Duration}
    {output : ExecutionOutput} (posted : Posted profiles address body log came)
    (within : (Http.delivery (profiles i).cipher address came.1 came.2).within limit = .ok output) :
    ∃ j run out, runs log = [(j, run)] ∧ run.outcome = .ok out ∧
      (∃ fate : Fate n, ⟨.carry address body, fate⟩ ∈ log ∧ fate.receiver = some j) ∧
      ((profiles i).cipher = (profiles j).cipher → output = out) := by
  obtain ⟨status, answer, came_eq, succeeded, reading⟩ := Delivery.output_of_within within
  cases posted with
  | @lost fate nobody =>
      rw [fate.failure.2] at succeeded
      cases succeeded
  | @executed fate j own reply reached receipt =>
      have failed : (fate.failure : Http.Attempt).succeeded ≠ true := by simp [fate.failure.2]
      cases reply with
      | error e => exact (failed succeeded).elim
      | ok reply =>
          cases back : fate.handsBack with
          | false => simp only [Fate.attempt, back] at succeeded; exact (failed succeeded).elim
          | true =>
              -- The sender reads the reply of the receiver, which sealed the output of its run.
              simp only [Fate.attempt, back, if_true, Http.Attempt.answered.injEq] at came_eq
              obtain ⟨-, rfl⟩ := came_eq
              obtain ⟨run, out, plain, ran, outcome, opening, decoding⟩ := receipt.performed.2.2 reply rfl
              refine ⟨j, run, out, ?_, outcome, ⟨fate, List.mem_cons_self, reached⟩, fun same => ?_⟩
              · rw [runs_cons rfl, runs_onDevice, ran]
                rfl
              · rw [same, Http.readOutput_of_opened opening decoding] at reading
                exact (Except.ok.inj reading).symm

theorem dispatch_atMostOnce (service : String) (decision : PlacementDecision) (execution : RemoteExecution)
    (limit? : Option Duration) :
    ((dispatch (profiles i) decision execution limit? >>= fun output =>
      (pure ⟨service, decision.targetDeviceId, decision.isLocal, output⟩ : FallibleRequest InvokeResponse)).run.through
        (carryOut profiles i)).Always (AtMostOnce profiles i) := by
  cases place : decision.isLocal with
  | true =>
      rw [run_bind_pure, run_dispatch, place]
      intro outcome
      cases outcome with
      | error e =>
          refine ⟨Nat.le_refl 1, Nat.zero_le 1, fun _ eq => ?_, fun _ eq other => ?_⟩
          · cases eq
          · cases eq
            exact (other rfl).elim
      | ok output =>
          refine ⟨Nat.le_refl 1, Nat.zero_le 1, fun _ eq => ?_, fun _ eq => ?_⟩
          · cases eq
            exact ⟨i, _, output, rfl, rfl, fun _ => ⟨rfl, rfl⟩, fun remote => (by cases remote), fun _ => rfl⟩
          · cases eq
  | false =>
      rw [run_bind_pure, through_andThen]
      refine .map ((dispatch_posted profiles i place execution limit?).mono ?_)
      rintro _ _ ⟨nonce, body, more, came, rfl, -, posted, rfl⟩
      have once : (runs (⟨.device i (.call .nonce), nonce⟩ :: more)).length ≤ 1 := (posted.runs_hops profiles).1
      have oneHop : hops (⟨.device i (.call .nonce), nonce⟩ :: more) ≤ 1 := Nat.le_of_eq (posted.runs_hops profiles).2
      cases within : (Http.delivery (profiles i).cipher decision.targetAddress came.1 came.2).within
          (limit?.getD (profiles i).limit) with
      | error e =>
          refine ⟨once, oneHop, fun _ eq => ?_, fun _ eq other => ?_⟩
          · cases eq
          · cases eq
            exact (other rfl).elim
      | ok output =>
          obtain ⟨j, run, out, ran, outcome, ⟨fate, mem, reached⟩, same⟩ := posted.success profiles i within
          refine ⟨once, oneHop, fun _ eq => ?_, fun _ eq => ?_⟩
          · cases eq
            refine ⟨j, run, out, ?_, outcome, fun here => ?_, fun _ => ?_, fun alike => ?_⟩
            · rw [runs_cons rfl, ran]
            · cases here
            · exact ⟨_, body, fate, List.mem_cons_of_mem _ mem, reached⟩
            · exact same (alike.resolve_left Bool.false_ne_true)
          · cases eq

/-- One invocation makes a whole fleet run at most one executable and hand its bytes over at most once. If it succeeds,
the one run succeeded: on the device itself for a local response, on the device that got the bytes for a remote one, and
with the very output of the response where the sender can tell. If it fails for any reason but the dispatch, nothing was
run or handed over. -/
theorem invoke_at_most_once (profiles : Fin n → Profile) (i : Fin n) (request : InvokeRequest)
    (world : Surroundings (interface n)) :
    AtMostOnce profiles i ((invoke profiles i request).transcript world [])
      ((invoke profiles i request).result world []) := by
  refine Always.played world [] ?_
  unfold invoke Device.invoke
  rw [run_bind, through_andThen]
  refine (quiet_of_looks profiles i (admitted_looks ..)).andThen fun log admission quiet => ?_
  cases admission with
  | error e => exact .of_quiet (by simpa using quiet)
  | ok executable =>
      rw [onSuccess_ok, run_bind, through_andThen]
      refine (quiet_of_looks profiles i (chooseTarget_looks ..)).andThen fun more placement still => ?_
      have quiet : runs (log ++ more) = [] ∧ hops (log ++ more) = 0 := by
        rw [runs_append, hops_append, quiet.1, quiet.2, still.1, still.2]
        exact ⟨rfl, rfl⟩
      cases placement with
      | error e => exact .of_quiet (by simpa using quiet)
      | ok decision =>
          refine (dispatch_atMostOnce profiles i _ decision _ _).mono fun rest result account => ?_
          rw [← List.append_assoc]
          exact account.after_quiet quiet

end Emplace.Fleet
