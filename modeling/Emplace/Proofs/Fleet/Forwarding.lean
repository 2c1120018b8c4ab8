import Emplace.Proofs.Fleet.Network

namespace Emplace.Fleet

open Procedure Device

variable {n : Nat} (profiles : Fin n → Profile) (i : Fin n)

inductive Posted (address : String) (body : Bytes) : List (Asked (interface n)) → Duration × Http.Attempt → Prop
  | lost {fate : Fate n} (nobody : fate.receiver = none) :
    Posted address body [⟨.carry address body, fate⟩] (fate.delay, fate.failure)
  | executed {fate : Fate n} {j : Fin n} {own : List (Asked Device.interface)} {reply : Except Failure Bytes}
    (reached : fate.receiver = some j) (receipt : Receipt (profiles j) body own reply) :
    Posted address body (⟨.carry address body, fate⟩ :: own.map (onDevice j)) (fate.delay, fate.attempt reply)

theorem post_posted (address : String) (body : Bytes) :
    (post profiles address body).Always (Posted profiles address body) := by
  unfold post
  rw [always_ask_iff]
  intro fate
  cases reached : fate.receiver with
  | none => exact .lost reached
  | some j =>
      refine (Always.through_alone j (executeRemote_receipt (profiles j) body)).andThen ?_
      rintro _ reply ⟨own, rfl, receipt⟩
      simpa [always_done_iff] using Posted.executed reached receipt

theorem forward_eq (cipher : Cipher) (nonce : Gcm.Nonce) (address : String) (payload : RemoteExecution) :
    ∃ body, readExecution cipher body = .ok payload ∧
      Http.forward cipher nonce (post profiles address) address payload =
        (post profiles address body).andThen fun came => done (Http.delivery cipher address came.1 came.2) := by
  obtain ⟨body, sealing, reading⟩ := Http.sealedExecution_read cipher nonce payload
  refine ⟨body, reading, ?_⟩
  simp only [Http.forward, sealing]
  rfl

theorem dispatch_posted {decision : PlacementDecision} (remote : decision.isLocal = false) (execution : RemoteExecution)
    (limit? : Option Duration) :
    ((dispatch (profiles i) decision execution limit?).run.through (carryOut profiles i)).Always fun log outcome =>
      ∃ (nonce : Gcm.Nonce) (body : Bytes) (more : List (Asked (interface n))) (came : Duration × Http.Attempt),
        log = ⟨.device i (.call .nonce), nonce⟩ :: more ∧ readExecution (profiles i).cipher body = .ok execution ∧
        Posted profiles decision.targetAddress body more came ∧
        outcome = ((Http.delivery (profiles i).cipher decision.targetAddress came.1 came.2).within
          (limit?.getD (profiles i).limit)).mapError (.dispatchFailed decision.targetDeviceId) := by
  rw [run_dispatch, remote]
  intro nonce
  obtain ⟨body, reading, forwarding⟩ := forward_eq profiles (profiles i).cipher nonce decision.targetAddress execution
  simp only [done_andThen]
  rw [forwarding, andThen_assoc]
  refine (post_posted profiles decision.targetAddress body).andThen fun more came posted => ?_
  exact ⟨nonce, body, more, came, by rw [List.append_nil], reading, posted, rfl⟩

end Emplace.Fleet
