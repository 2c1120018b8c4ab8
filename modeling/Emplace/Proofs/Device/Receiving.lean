import Emplace.Proofs.Device.Engine

namespace Emplace.Device.Engine

open Procedure Admission

variable {engine : Engine} {payload : Bytes} {x : RemoteExecution}

/-- What an engine has to answer to a payload, by the first stage that fails. -/
inductive Verdict (engine : Engine) (payload : Bytes) : Except Failure Bytes → Prop
  | unopened {e : CipherError} (fault : engine.profile.cipher.opened payload = .error e) :
    Verdict engine payload (.error (.invalidCommand (.unreadable e)))
  | undecoded {plain : Bytes} {e : Json.Fault} (opening : engine.profile.cipher.opened payload = .ok plain)
    (fault : RemoteExecution.shape.decode plain = .error e) :
    Verdict engine payload (.error (.invalidCommand (.malformed e)))
  | unknown {x : RemoteExecution} (holds : engine.Holds payload x)
    (fault : engine.tables.allowLists.get? x.serviceName = none) :
    Verdict engine payload (.error (.serviceNotRegistered x.serviceName))
  | unlisted {x : RemoteExecution} {allowed : List String} (holds : engine.Holds payload x)
    (found : engine.tables.allowLists.get? x.serviceName = some allowed) (fault : x.requester ∉ allowed) :
    Verdict engine payload (.error (.requesterNotAllowed x.serviceName x.requester))
  | unregistered {x : RemoteExecution} (holds : engine.Holds payload x)
    (listed : engine.Lists x.serviceName x.requester) (fault : engine.tables.commands.get? x.serviceName = none) :
    Verdict engine payload (.error (.serviceNotRegistered x.serviceName))
  | other {x : RemoteExecution} {executable : String} (holds : engine.Holds payload x)
    (listed : engine.Lists x.serviceName x.requester)
    (registered : engine.tables.commands.get? x.serviceName = some executable) (fault : executable ≠ x.executable) :
    Verdict engine payload (.error (.invalidCommand (.otherExecutable x.executable x.serviceName)))
  | operator {x : RemoteExecution} {arg : String} (holds : engine.Holds payload x)
    (listed : engine.Lists x.serviceName x.requester)
    (registered : engine.tables.commands.get? x.serviceName = some x.executable) (mem : arg ∈ x.args)
    (fault : CarriesOperator arg) : Verdict engine payload (.error (.invalidCommand (.shellOperator arg)))
  | failed {x : RemoteExecution} {e : DispatchError} (holds : engine.Holds payload x) (admits : engine.Admits x)
    (fault : engine.executor x.executable x.args = .error e) :
    Verdict engine payload (.error (.dispatchFailed engine.profile.id e))
  | succeeded {x : RemoteExecution} {output : ExecutionOutput} {reply plain : Bytes} (holds : engine.Holds payload x)
    (admits : engine.Admits x) (ran : engine.executor x.executable x.args = .ok output)
    (opening : engine.profile.cipher.opened reply = .ok plain)
    (decoding : ExecutionOutput.shape.decode plain = .ok output) : Verdict engine payload (.ok reply)

def ranFor (engine : Engine) (x : RemoteExecution) : Ran :=
  ⟨x.executable, x.args, engine.executor x.executable x.args⟩

theorem Holds.unique {y : RemoteExecution} (holds : engine.Holds payload x) (again : engine.Holds payload y) :
    x = y := by
  rw [← readExecution_eq_ok_iff] at holds again
  exact Except.ok.inj (holds.symm.trans again)

theorem Verdict.sealed_output {answer : Except Failure Bytes} {output : ExecutionOutput}
    (verdict : engine.Verdict payload answer) (holds : engine.Holds payload x) (admits : engine.Admits x)
    (ran : engine.executor x.executable x.args = .ok output) :
    ∃ reply plain, answer = .ok reply ∧ engine.profile.cipher.opened reply = .ok plain ∧
      ExecutionOutput.shape.decode plain = .ok output := by
  cases verdict with
  | unopened fault =>
      obtain ⟨plain, opening, -⟩ := holds
      cases fault.symm.trans opening
  | undecoded opened fault =>
      obtain ⟨plain, opening, decoding⟩ := holds
      obtain rfl := Except.ok.inj (opened.symm.trans opening)
      cases fault.symm.trans decoding
  | unknown held fault =>
      obtain rfl := held.unique holds
      obtain ⟨allowed, found, -⟩ := admits.listed
      cases fault.symm.trans found
  | unlisted held found fault =>
      obtain rfl := held.unique holds
      obtain ⟨allowed, again, listed⟩ := admits.listed
      obtain rfl := Option.some.inj (found.symm.trans again)
      exact (fault listed).elim
  | unregistered held _ fault =>
      obtain rfl := held.unique holds
      cases fault.symm.trans admits.registered
  | other held _ registered fault =>
      obtain rfl := held.unique holds
      exact (fault (Option.some.inj (registered.symm.trans admits.registered))).elim
  | operator held _ _ mem fault =>
      obtain rfl := held.unique holds
      exact (admits.clean _ mem fault).elim
  | failed held _ fault =>
      obtain rfl := held.unique holds
      cases fault.symm.trans ran
  | succeeded held _ again opening decoding =>
      obtain rfl := held.unique holds
      obtain rfl := Except.ok.inj (again.symm.trans ran)
      exact ⟨_, _, rfl, opening, decoding⟩

theorem Verdict.of_reply {reply : Bytes} (verdict : engine.Verdict payload (.ok reply))
    (holds : engine.Holds payload x) :
    engine.Admits x ∧ ∃ output plain, engine.executor x.executable x.args = .ok output ∧
      engine.profile.cipher.opened reply = .ok plain ∧ ExecutionOutput.shape.decode plain = .ok output := by
  cases verdict with
  | succeeded held admits ran opening decoding =>
      obtain rfl := held.unique holds
      exact ⟨admits, _, _, ran, opening, decoding⟩

theorem Verdict.of_refusal {e : Failure} (holds : engine.Holds payload x)
    (refusal : permitted x.serviceName x.requester (engine.tables.allowLists.get? x.serviceName) = .error e) :
    engine.Verdict payload (.error e) := by
  unfold permitted at refusal
  split at refusal
  · rename_i missing
    cases refusal
    exact .unknown holds missing
  · rename_i allowed found
    split at refusal
    · cases refusal
    · rename_i unlisted
      cases refusal
      exact .unlisted holds found unlisted

theorem Verdict.of_unverified {e : Failure} (holds : engine.Holds payload x)
    (listed : engine.Lists x.serviceName x.requester)
    (refusal : verified x.serviceName x.executable (engine.tables.commands.get? x.serviceName) = .error e) :
    engine.Verdict payload (.error e) := by
  cases registered : engine.tables.commands.get? x.serviceName with
  | none =>
      rw [registered] at refusal
      cases refusal
      exact .unregistered holds listed registered
  | some executable =>
      simp only [registered, verified, resolved] at refusal
      split at refusal
      · cases refusal
      · rename_i ne
        cases refusal
        exact .other holds listed registered ne

theorem Admits.of_checks
    (listed : permitted x.serviceName x.requester (engine.tables.allowLists.get? x.serviceName) = .ok ())
    (same : verified x.serviceName x.executable (engine.tables.commands.get? x.serviceName) = .ok ())
    (clean : checkArgs x.args = .ok ()) : engine.Admits x :=
  ⟨permitted_eq_ok_iff.1 listed, verified_eq_ok_iff.1 same, checkArgs_eq_ok_iff.1 clean⟩

theorem verdict_of_performance {log : List (Asked interface)} {answer : Except Failure Bytes}
    (performance : Performance engine.profile x log answer) (answered : engine.Answered log)
    (holds : engine.Holds payload x) :
    engine.Verdict payload answer ∧
      (engine.Admits x ∧ log.filterMap ran? = [engine.ranFor x] ∨ ¬engine.Admits x ∧ log.filterMap ran? = []) := by
  cases performance with
  | refused refusal =>
      obtain rfl := answered.found List.mem_cons_self
      refine ⟨.of_refusal holds refusal, .inr ⟨fun admits => ?_, rfl⟩⟩
      cases refusal.symm.trans (permitted_eq_ok_iff.2 admits.listed)
  | unverified listed refusal =>
      obtain rfl := answered.found List.mem_cons_self
      obtain rfl := answered.registered (List.mem_cons_of_mem _ List.mem_cons_self)
      refine ⟨.of_unverified holds (permitted_eq_ok_iff.1 listed) refusal, .inr ⟨fun admits => ?_, rfl⟩⟩
      cases refusal.symm.trans (verified_eq_ok_iff.2 admits.registered)
  | unclean listed same refusal =>
      obtain rfl := answered.found List.mem_cons_self
      obtain rfl := answered.registered (List.mem_cons_of_mem _ List.mem_cons_self)
      obtain ⟨arg, mem, carries, rfl⟩ := checkArgs_eq_error refusal
      refine ⟨.operator holds (permitted_eq_ok_iff.1 listed) (verified_eq_ok_iff.1 same) mem carries, .inr ⟨?_, rfl⟩⟩
      exact fun admits => admits.clean arg mem carries
  | failed listed same clean =>
      obtain rfl := answered.found List.mem_cons_self
      obtain rfl := answered.registered (List.mem_cons_of_mem _ List.mem_cons_self)
      have ran := answered.outcome (List.mem_cons_of_mem _ (List.mem_cons_of_mem _ List.mem_cons_self))
      have admits := Admits.of_checks listed same clean
      refine ⟨.failed holds admits ran.symm, .inl ⟨admits, ?_⟩⟩
      rw [ranFor, ← ran]
      rfl
  | answered listed same clean opening decoding =>
      obtain rfl := answered.found List.mem_cons_self
      obtain rfl := answered.registered (List.mem_cons_of_mem _ List.mem_cons_self)
      have ran := answered.outcome (List.mem_cons_of_mem _ (List.mem_cons_of_mem _ List.mem_cons_self))
      have admits := Admits.of_checks listed same clean
      refine ⟨.succeeded holds admits ran.symm opening decoding, .inl ⟨admits, ?_⟩⟩
      rw [ranFor, ← ran]
      rfl

theorem verdict_of_unread {e : Failure} (unread : readExecution engine.profile.cipher payload = .error e) :
    engine.Verdict payload (.error e) := by
  unfold readExecution at unread
  split at unread
  · rename_i fault
    cases unread
    exact .unopened fault
  · rename_i plain opening
    cases decoding : RemoteExecution.shape.decode plain with
    | error fault =>
        rw [decoding] at unread
        cases unread
        exact .undecoded opening decoding
    | ok x =>
        rw [decoding] at unread
        cases unread

/-- A device answers any bytes as the first stage that fails says. It runs something only for an execution that it read
and admits, and then exactly that, once; and once the run left an output, the output comes back sealed. -/
theorem executeRemote_verdict (engine : Engine) (payload : Bytes) :
    let request := (executeRemote engine.profile payload).run
    let runs := (engine.transcript request).filterMap ran?
    runs.length ≤ 1 ∧
      (∀ run, run ∈ runs ↔ ∃ x, engine.Holds payload x ∧ engine.Admits x ∧ run = engine.ranFor x) ∧
      engine.Verdict payload (engine.result request) ∧
      ∀ x output, engine.Holds payload x → engine.Admits x → engine.executor x.executable x.args = .ok output →
        ∃ reply plain, engine.result request = .ok reply ∧ engine.profile.cipher.opened reply = .ok plain ∧
          ExecutionOutput.shape.decode plain = .ok output := by
  intro request runs
  have answered : engine.Answered (engine.transcript request) := answered_transcript engine request
  have receipt : Receipt engine.profile payload (engine.transcript request) (engine.result request) :=
    (executeRemote_receipt engine.profile payload).played engine.world []
  -- From here on only the course counts, which fixes the log and the answer.
  generalize engine.result request = answer at receipt ⊢
  have ran : runs = (engine.transcript request).filterMap ran? := rfl
  generalize engine.transcript request = log at receipt answered ran
  rw [ran]
  cases receipt with
  | unread fault =>
      have unheld (x : RemoteExecution) (holds : engine.Holds payload x) : False := by
        cases fault.symm.trans (readExecution_eq_ok_iff.2 holds)
      refine ⟨Nat.zero_le 1, fun run => ?_, verdict_of_unread fault, fun x output holds => (unheld x holds).elim⟩
      refine iff_of_false List.not_mem_nil ?_
      rintro ⟨x, holds, -⟩
      exact unheld x holds
  | @read x _ _ reading performance =>
      have holds := readExecution_eq_ok_iff.1 reading
      obtain ⟨verdict, performed⟩ := verdict_of_performance performance answered holds
      refine ⟨performance.performed.2.1, fun run => ?_, verdict, fun y output held admits ran => ?_⟩
      · rcases performed with ⟨admits, once⟩ | ⟨refused, never⟩
        · rw [once, List.mem_singleton]
          constructor
          · rintro rfl
            exact ⟨x, holds, admits, rfl⟩
          · rintro ⟨y, held, -, rfl⟩
            rw [held.unique holds]
        · rw [never]
          refine iff_of_false List.not_mem_nil ?_
          rintro ⟨y, held, admits, -⟩
          exact refused (held.unique holds ▸ admits)
      · exact verdict.sealed_output held admits ran

end Emplace.Device.Engine
