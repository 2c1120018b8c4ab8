import Emplace.Proofs.Bench.Playing
import Emplace.Proofs.Fleet.Network

/-!
# Fleets on the bench

A fleet on the bench whose sends reach its own devices or nobody is one way that a fleet on a network may go: an
invocation that is played there comes to the end that it comes to on some network (`Play.invoke_plays`).
-/

namespace Emplace

open Procedure Device

theorem Failure.isSuccess_status (e : Failure) : Http.isSuccess e.status = false := by cases e <;> rfl

namespace Fleet

variable {n : Nat} {profiles : Fin n → Profile} {address : String} {body : Bytes}

theorem post_reaches_lost {attempt : Http.Attempt} (failed : attempt.succeeded = false) :
    ∃ log, (post profiles address body).Reaches log (⟨0⟩, attempt) := by
  let fate : Fate n := ⟨none, false, ⟨attempt, failed⟩, ⟨0⟩⟩
  exact ⟨_, Reaches.ask (I := interface n) (s := .carry address body) fate (.done _)⟩

theorem post_reaches_executed {fate : Fate n} {j : Fin n} {log : List (Asked (interface n))}
    {reply : Except Failure Bytes} (reached : fate.receiver = some j)
    (executed : ((executeRemote (profiles j) body).run.through (alone j)).Reaches log reply) :
    ∃ log, (post profiles address body).Reaches log (fate.delay, fate.attempt reply) := by
  refine ⟨_ :: (log ++ []), Reaches.ask (I := interface n) (s := .carry address body) fate ?_⟩
  rw [reached]
  exact executed.andThen (.done _)

end Fleet

namespace Bench.Play

variable {n : Nat} {profiles : Fin n → Profile} {i : Fin n} {α β : Type} {start : Fleet} {x : Play α}
  {k : α → Play β} {q : Procedure (Fleet.interface n) α}

/-- Fleets like `start` that play `x` stay like it, and come to an end that `q` may reach. -/
structure Follows (start : Fleet) (x : Play α) (q : Procedure (Fleet.interface n) α) : Prop where
  alike : ∀ f, start.Alike f → start.Alike (x.run f).2
  reaches : ∀ f, start.Alike f → ∃ log, q.Reaches log (x.run f).1

theorem follows_pure (a : α) : Follows start (pure a) (done a : Procedure (Fleet.interface n) α) :=
  ⟨fun _ alike => alike, fun _ _ => ⟨[], .done a⟩⟩

theorem Follows.bind {m : α → Procedure (Fleet.interface n) β} (first : Follows start x q)
    (rest : ∀ a, Follows start (k a) (m a)) : Follows start (x >>= k) (q.andThen m) where
  alike f alike := (rest _).alike _ (first.alike f alike)
  reaches f alike := by
    obtain ⟨log, reaches⟩ := first.reaches f alike
    obtain ⟨more, reaches'⟩ := (rest (x.run f).1).reaches _ (first.alike f alike)
    exact ⟨log ++ more, reaches.andThen reaches'⟩

theorem Follows.get {k : Fleet → Play α} (rest : ∀ f, start.Alike f → Follows start (k f) q) :
    Follows start (get >>= k) q :=
  ⟨fun f alike => (rest f alike).alike f alike, fun f alike => (rest f alike).reaches f alike⟩

theorem Follows.after {q : Procedure (Fleet.interface n) β} (keeps : x.Keeps) (rest : ∀ a, Follows start (k a) q) :
    Follows start (x >>= k) q where
  alike f alike := (rest _).alike _ (alike.trans (keeps.alike f))
  reaches f alike := (rest _).reaches _ (alike.trans (keeps.alike f))

theorem follows_alone (i : Fin n) {s : Step} {x : Play s.Answer} (alike : ∀ f : Fleet, f.Alike (x.run f).2) :
    Follows start x (Fleet.alone i s) where
  alike f before := before.trans (alike f)
  reaches _ _ := ⟨_, Reaches.ask (I := Fleet.interface n) (s := .device i s) _ (.done _)⟩

theorem forward_follows {come : Bytes → Play (Duration × Http.Attempt)}
    {post : Bytes → Procedure (Fleet.interface n) (Duration × Http.Attempt)}
    (comes : ∀ body, Follows start (come body) (post body)) (cipher : Cipher) (nonce : Gcm.Nonce) (address : String)
    (payload : RemoteExecution) :
    Follows start (Http.forward cipher nonce come address payload)
      (Http.forward cipher nonce post address payload) := by
  unfold Http.forward
  cases Http.sealedExecution cipher nonce payload with
  | error e => exact follows_pure _
  | ok body => exact (comes body).bind fun _ => follows_pure _

theorem alone_follows (j : Fin n) (p : Request α) : Follows start (alone j p) (p.through (Fleet.alone j)) := by
  induction p with
  | done a => exact follows_pure a
  | ask s next ih =>
      have first : Follows start _ (Fleet.alone j s) :=
        follows_alone j (answer_alike (fun address _ _ => keeps_pure (nobody address)) j s)
      exact first.bind ih

theorem lost_follows (address : String) (body : Bytes) {attempt : Http.Attempt} (failed : attempt.succeeded = false) :
    Follows start (pure (⟨0⟩, attempt)) (Fleet.post profiles address body) where
  alike _ alike := alike
  reaches _ _ := Fleet.post_reaches_lost failed

theorem post_follows {j : Fin n} (profile : (start.rig j).profile = profiles j) (address : String) (body : Bytes) :
    Follows start (do return (⟨0⟩, ← post j body)) (Fleet.post profiles address body) where
  alike f alike := alike.trans ((post_keeps j body).alike f)
  reaches f alike := by
    obtain ⟨log, executed⟩ := (alone_follows j (executeRemote (f.rig j).profile body).run).reaches f alike
    change ∃ log, (Fleet.post profiles address body).Reaches log
      (⟨0⟩, answered ((alone j (executeRemote (f.rig j).profile body).run).run f).1)
    rw [alike.profile, profile] at executed ⊢
    generalize ((alone j (executeRemote (profiles j) body).run).run f).1 = outcome at executed ⊢
    cases outcome with
    | ok reply =>
        let fate : Fleet.Fate n := ⟨some j, true, ⟨.dropped, rfl⟩, ⟨0⟩⟩
        have reached : fate.receiver = some j := rfl
        exact Fleet.post_reaches_executed reached executed
    | error e =>
        let refused : Http.Attempt := .answered e.status (Text.bytesOf e.text)
        let fate : Fleet.Fate n := ⟨some j, false, ⟨refused, e.isSuccess_status⟩, ⟨0⟩⟩
        have reached : fate.receiver = some j := rfl
        exact Fleet.post_reaches_executed reached executed

theorem sent_follows {come : Bytes → Play (Duration × Http.Attempt)} {address : String}
    (comes : ∀ body, Follows start (come body) (Fleet.post profiles address body)) (payload : RemoteExecution)
    (cipher : Cipher) :
    Follows start (do Http.forward cipher (← nonce) come address payload)
      (Fleet.carryOut profiles i (.call (.send address payload cipher))) := by
  have drawn : Follows start nonce (Fleet.alone i (.call .nonce)) :=
    follows_alone i (s := .call .nonce) (x := nonce) nonce_keeps.alike
  exact drawn.bind fun nonce => forward_follows comes cipher nonce address payload

theorem nobody_follows (address : String) (payload : RemoteExecution) (cipher : Cipher) :
    Follows start (pure (nobody address)) (Fleet.carryOut profiles i (.call (.send address payload cipher))) where
  alike _ alike := alike
  reaches f alike := by
    let lost (_ : Bytes) : Play (Duration × Http.Attempt) := pure (⟨0⟩, .refused (.described "nobody there"))
    have sent : Follows start (do Http.forward cipher (← nonce) lost address payload)
        (Fleet.carryOut profiles i (.call (.send address payload cipher))) :=
      sent_follows (fun body => lost_follows address body rfl) payload cipher
    have forwarding (drawn : Gcm.Nonce) : Http.forward cipher drawn lost address payload = pure (nobody address) := by
      obtain ⟨body, sealing, -⟩ := Http.sealedExecution_read cipher drawn payload
      simp only [Http.forward, sealing]
      rfl
    simp only [forwarding] at sent
    exact sent.reaches f alike

theorem answer_follows (all : start.rigs.length = n) (profile : ∀ j : Fin n, (start.rig j).profile = profiles j)
    (unscripted : (start.rig i).routes = []) (s : Step) :
    Follows start (answer (send i) i s) (Fleet.carryOut profiles i s) := by
  cases s with
  | access a => exact follows_alone i (answer_alike (send_keeps i) i (.access a))
  | call c =>
      cases c with
      | send address payload cipher =>
          refine Follows.get fun f alike => ?_
          cases f.reach with
          | nowhere known => exact sent_follows (fun body => lost_follows address body rfl) payload cipher
          | routes =>
              refine .after (note_keeps ..) fun _ => ?_
              rw [alike.routes, unscripted]
              cases found : f.find? address with
              | none => exact nobody_follows address payload cipher
              | some receiver =>
                have within : receiver < n := by
                  rw [← all, ← alike.length]
                  exact (List.findIdx?_eq_some_iff_getElem.1 found).1
                have profile := profile ⟨receiver, within⟩
                exact sent_follows (fun body => post_follows profile address body) payload cipher
      | sample metric => exact follows_alone i (answer_alike (send_keeps i) i (.call (.sample metric)))
      | _ => exact follows_alone i (answer_alike (send_keeps i) i _)

theorem request_follows (all : start.rigs.length = n) (profile : ∀ j : Fin n, (start.rig j).profile = profiles j)
    (unscripted : (start.rig i).routes = []) (p : Request α) :
    Follows start (request i p) (p.through (Fleet.carryOut profiles i)) := by
  induction p with
  | done a => exact follows_pure a
  | ask s next ih => exact (answer_follows all profile unscripted s).bind ih

/-- What the devices of `f` answer as they stand, while nothing that they send arrives. -/
def replies (f : Fleet) : Surroundings (Fleet.interface f.rigs.length)
  | _, .device i s => ((answer (send i) i s).run f).1
  | _, .carry .. => (⟨none, false, ⟨.dropped, rfl⟩, ⟨0⟩⟩ : Fleet.Fate _)

/-- An invocation on the bench, where nothing that the device sends is answered by its script, is the same invocation in
a fleet on some network. -/
theorem invoke_plays (f : Fleet) (i : Fin f.rigs.length) (unscripted : (f.rig i).routes = [])
    (invocation : InvokeRequest) :
    ∃ world log, Plays world [] (Fleet.invoke (fun j : Fin f.rigs.length => (f.rig j).profile) i invocation) log
      ((request i (Device.invoke (f.rig i).profile invocation).run).run f).1 := by
  have follows : Follows f _ (Fleet.invoke _ i invocation) := request_follows rfl (fun _ => rfl) unscripted _
  obtain ⟨log, reaches⟩ := follows.reaches f (.refl f)
  obtain ⟨world, plays⟩ := reaches.plays (replies f) []
  exact ⟨world, log, plays⟩

end Bench.Play

end Emplace
