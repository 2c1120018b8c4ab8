import Emplace.Bench.Fleet
import Emplace.Proofs.Device.Admitted
import Emplace.Proofs.Procedure.Play

/-!
# Devices on the bench

Whatever is played on the bench, its devices keep their profiles and scripts, and only the tables of the one that takes
a request may change (`Play.answer_keeps`). A request that is played to its end is thus one run of the traffic at that
device, and what it comes to is one of the ends that it may reach (`Play.request_run`).
-/

namespace Emplace.Bench

open Procedure Device

theorem map_modify_of_fixed {α β : Type} {h : α → β} {g : α → α} {l : List α} {i : Nat}
    (kept : ∀ a, l[i]? = some a → h (g a) = h a) : (l.modify i g).map h = l.map h := by
  apply List.ext_getElem?
  intro j
  rw [List.getElem?_map, List.getElem?_map, List.getElem?_modify]
  by_cases same : i = j
  · subst same
    cases there : l[i]? with
    | none => rfl
    | some a => simp [kept a there]
  · simp [same]

def Rig.setting (rig : Rig) : Rig := { rig with tables := .empty, log := .empty }

namespace Fleet

def Alike (f g : Fleet) : Prop := g.reach = f.reach ∧ g.rigs.map Rig.setting = f.rigs.map Rig.setting

variable {f g h : Fleet} {i j : Nat}

theorem Alike.refl (f : Fleet) : f.Alike f := ⟨rfl, rfl⟩

theorem Alike.trans (first : f.Alike g) (second : g.Alike h) : f.Alike h :=
  ⟨second.1.trans first.1, second.2.trans first.2⟩

theorem Alike.length (alike : f.Alike g) : g.rigs.length = f.rigs.length := by
  simpa using congrArg List.length alike.2

theorem Alike.rig (alike : f.Alike g) (j : Nat) : (g.rig j).setting = (f.rig j).setting := by
  have same := congrArg (fun rigs => rigs.getD j (Rig.setting default)) alike.2
  simpa [Fleet.rig, List.getD_eq_getElem?_getD, List.getElem?_map, Option.getD_map] using same

theorem Alike.profile (alike : f.Alike g) (j : Nat) : (g.rig j).profile = (f.rig j).profile := by
  have same := congrArg Rig.profile (alike.rig j)
  exact same

theorem Alike.routes (alike : f.Alike g) (j : Nat) : (g.rig j).routes = (f.rig j).routes := by
  have same := congrArg Rig.routes (alike.rig j)
  exact same

def tables (f : Fleet) : List Tables := f.rigs.map Rig.tables

theorem tables_rig (same : g.tables = f.tables) (j : Nat) : (g.rig j).tables = (f.rig j).tables := by
  have same := congrArg (fun tables => tables.getD j (Rig.tables default)) same
  simpa [Fleet.rig, tables, List.getD_eq_getElem?_getD, List.getElem?_map, Option.getD_map] using same

end Fleet

namespace Play

variable {α β : Type} {x : Play α} {k : α → Play β} {f : Fleet} {i : Nat}

/-- Something that is played and leaves fleets as they are, but for logs, the clock and the count of nonces. -/
structure Keeps (x : Play α) : Prop where
  alike : ∀ f : Fleet, f.Alike (x.run f).2
  tables : ∀ f : Fleet, (x.run f).2.tables = f.tables

theorem keeps_pure (a : α) : (pure a : Play α).Keeps := ⟨fun f => .refl f, fun _ => rfl⟩

theorem keeps_get : (get : Play Fleet).Keeps := ⟨fun f => .refl f, fun _ => rfl⟩

theorem Keeps.bind (first : x.Keeps) (rest : ∀ a, (k a).Keeps) : (x >>= k).Keeps where
  alike f := (first.alike f).trans ((rest _).alike _)
  tables f := ((rest _).tables _).trans (first.tables f)

theorem note_keeps (i : Nat) (add : Log → Log) : (note i add).Keeps where
  alike _ := ⟨rfl, map_modify_of_fixed fun _ _ => rfl⟩
  tables _ := map_modify_of_fixed fun _ _ => rfl

theorem nonce_keeps : nonce.Keeps := ⟨fun f => .refl f, fun _ => rfl⟩

theorem sample_keeps (i : Nat) (metric : Metric) : (sample i metric).Keeps :=
  (note_keeps ..).bind fun _ => keeps_get.bind fun _ => keeps_pure _

theorem execute_keeps (i : Nat) (executable : String) (args : List String) : (execute i executable args).Keeps := by
  refine keeps_get.bind fun f => ?_
  cases (f.rig i).runner with
  | processes => exact keeps_pure _
  | echo | always => exact (note_keeps ..).bind fun _ => keeps_pure _

theorem access_alike (i : Nat) (a : Access) (f : Fleet) : f.Alike ((access i a).run f).2 :=
  ⟨rfl, map_modify_of_fixed fun _ _ => rfl⟩

theorem tables_access (here : i < f.rigs.length) (a : Access) :
    (((access i a).run f).2.rig i).tables = ((f.rig i).tables.apply (f.rig i).profile.id f.now a).2 := by
  change ((f.rigs.modify i fun rig => { rig with tables := _ }).getD i default).tables = _
  rw [List.getD_eq_getElem?_getD, List.getElem?_modify, List.getElem?_eq_getElem here]
  exact congrArg Rig.tables (if_pos rfl)

theorem access_keeps (i : Nat) {a : Access} (unchanging : Step.Unchanging (.access a)) : (access i a).Keeps := by
  refine ⟨access_alike i a, fun f => map_modify_of_fixed fun rig there => ?_⟩
  have found : f.rig i = rig := by simp [Fleet.rig, List.getD_eq_getElem?_getD, there]
  exact (unchanging _ _ _).trans (congrArg Rig.tables found)

section

variable {send : String → RemoteExecution → Cipher → Play Delivery}
  (sends : ∀ address payload cipher, (send address payload cipher).Keeps)

include sends

theorem answer_keeps (i : Nat) {s : Step} (unchanging : s.Unchanging) : (answer send i s).Keeps := by
  cases s with
  | access a => exact access_keeps i unchanging
  | call c =>
      cases c with
      | sample metric => exact sample_keeps i metric
      | release => exact note_keeps i fun log => { log with readings := log.readings ++ [.release] }
      | stamp => exact keeps_get.bind fun _ => keeps_pure _
      | nonce => exact nonce_keeps
      | execute executable args => exact execute_keeps i executable args
      | send address payload cipher => exact sends address payload cipher
      | announce seed a => exact keeps_get.bind fun _ => keeps_pure _

theorem answer_alike (i : Nat) (s : Step) (f : Fleet) : f.Alike ((answer send i s).run f).2 := by
  cases s with
  | access a => exact access_alike i a f
  | call c => exact (answer_keeps sends i (s := .call c) trivial).alike f

theorem run_keeps (i : Nat) {p : Request α} (unchanging : p.Only Step.Unchanging) :
    (p.run (answer send i) : Play α).Keeps := by
  induction p with
  | done a => exact keeps_pure a
  | ask s next ih => exact (answer_keeps sends i unchanging.1).bind fun answer => ih answer (unchanging.2 answer)

end

theorem alone_keeps (i : Nat) {p : Request α} (unchanging : p.Only Step.Unchanging) : (alone i p).Keeps :=
  run_keeps (fun _ _ _ => keeps_pure _) i unchanging

theorem post_keeps (i : Nat) (body : Bytes) : (post i body).Keeps :=
  keeps_get.bind fun _ => (alone_keeps i (executeRemote_unchanging ..)).bind fun _ => keeps_pure _

theorem forward_keeps {come : Bytes → Play (Duration × Http.Attempt)} (comes : ∀ body, (come body).Keeps)
    (cipher : Cipher) (nonce : Gcm.Nonce) (address : String) (payload : RemoteExecution) :
    (Http.forward cipher nonce come address payload).Keeps := by
  unfold Http.forward
  cases Http.sealedExecution cipher nonce payload with
  | error e => exact keeps_pure _
  | ok body => exact (comes body).bind fun _ => keeps_pure _

theorem send_keeps (i : Nat) (address : String) (payload : RemoteExecution) (cipher : Cipher) :
    (send i address payload cipher).Keeps := by
  refine keeps_get.bind fun f => ?_
  cases f.reach with
  | nowhere known => exact nonce_keeps.bind fun nonce => forward_keeps (fun _ => keeps_pure _) ..
  | routes =>
      refine (note_keeps ..).bind fun _ => ?_
      cases (f.rig i).routes.lookup address with
      | some delivery => exact keeps_pure _
      | none =>
          cases f.find? address with
          | none => exact keeps_pure _
          | some receiver =>
              refine nonce_keeps.bind fun nonce => forward_keeps (fun body => ?_) ..
              exact (post_keeps receiver body).bind fun _ => keeps_pure _

theorem request_alike (i : Nat) (p : Request α) (f : Fleet) : f.Alike ((request i p).run f).2 := by
  induction p generalizing f with
  | done a => exact .refl f
  | ask s next ih => exact (answer_alike (send_keeps i) i s f).trans (ih _ _)

theorem answer_next {w : Traffic} {ticket : Nat} {s : Step} {next : s.Answer → Request Unit}
    (here : i < f.rigs.length) (tables : w.tables = (f.rig i).tables) (turn : w.pending ticket = some (ask s next)) :
    Next (f.rig i).profile w (.acted ticket f.now ⟨s, ((answer (send i) i s).run f).1⟩)
        ⟨(((answer (send i) i s).run f).2.rig i).tables, w.put ticket (next ((answer (send i) i s).run f).1)⟩ := by
  cases s with
  | access a =>
      have changed := tables_access here a
      have event : Next (f.rig i).profile w _ _ := .accessed f.now turn
      rw [tables] at event
      change Next _ _ (.acted ticket f.now ⟨Step.access a, ((access i a).run f).1⟩)
        ⟨(((access i a).run f).2.rig i).tables, w.put ticket (next ((access i a).run f).1)⟩
      rw [changed]
      exact event
  | call c =>
      have keeps := answer_keeps (send_keeps i) i (s := .call c) trivial
      rw [Fleet.tables_rig (keeps.tables f), ← tables]
      exact .called f.now _ turn

/-- A request that is played to its end is one run of the traffic at its device, with all other requests in flight left
as they are, and it comes to an end that it may reach by the answers of that run. -/
theorem request_run {w : Traffic} {ticket : Nat} {p : Request α} (here : i < f.rigs.length)
    (tables : w.tables = (f.rig i).tables) (turn : w.pending ticket = some (steps p)) :
    ∃ past, Run (f.rig i).profile w past
        ⟨(((request i p).run f).2.rig i).tables, w.put ticket (done ())⟩ ∧
      p.Reaches (ownSteps ticket past) ((request i p).run f).1 := by
  induction p generalizing f w with
  | done a =>
      refine ⟨[], ?_, .done a⟩
      have still : w.put ticket (done ()) = w.pending := Function.update_eq_self_iff.2 turn.symm
      rw [still]
      change Run _ w [] ⟨(f.rig i).tables, w.pending⟩
      rw [← tables]
      exact .rest w
  | ask s next ih =>
      -- The first answer is the first event; fleet and traffic go on from there side by side.
      have event := answer_next here tables turn
      have alike := answer_alike (send_keeps i) i s f
      obtain ⟨past, run, reaches⟩ := ih _ (f := ((answer (send i) i s).run f).2)
        (w := ⟨_, w.put ticket (steps (next ((answer (send i) i s).run f).1))⟩) (alike.length ▸ here) rfl
        (w.put_self ..)
      rw [alike.profile, Traffic.put, Traffic.put, Function.update_idem] at run
      refine ⟨_ :: past, .next event run, ?_⟩
      have own : (Event.acted ticket f.now ⟨s, ((answer (send i) i s).run f).1⟩).of? ticket = some ⟨s, _⟩ :=
        if_pos rfl
      rw [ownSteps_cons, own]
      exact .ask _ reaches

def tasks (i : Nat) (list : List Task) : Play Unit :=
  list.forM fun task => do request i (task.request ((← get).rig i).profile)

theorem tasks_run_of_free (list : List Task) (here : i < f.rigs.length) {w : Traffic} {first : Nat}
    (tables : w.tables = (f.rig i).tables) (free : ∀ ticket, first ≤ ticket → w.pending ticket = none) :
    ∃ past v, Run (f.rig i).profile w past v ∧ v.tables = (((tasks i list).run f).2.rig i).tables := by
  induction list generalizing f w first with
  | nil => exact ⟨[], w, .rest w, tables⟩
  | cons task list ih =>
      -- The task arrives under the first free ticket, and the next one finds the one after it free.
      let p := task.request (f.rig i).profile
      let arrived : Traffic := ⟨w.tables, w.put first p⟩
      have arrival : Next (f.rig i).profile w (.arrived first task) arrived :=
        .arrived task (free first (Nat.le_refl first))
      have turn : arrived.pending first = some (steps p) :=
        (w.put_self first p).trans (congrArg some (andThen_done p).symm)
      obtain ⟨past, run, -⟩ := request_run here (w := arrived) tables turn
      have alike := request_alike i p f
      have later (ticket : Nat) (more : first + 1 ≤ ticket) : arrived.put first (done ()) ticket = none := by
        have ne : ticket ≠ first := by omega
        rw [Traffic.put_of_ne ne]
        exact (w.put_of_ne ne p).trans (free ticket (by omega))
      obtain ⟨more, v, rest, same⟩ :=
        ih (f := ((request i p).run f).2) (alike.length ▸ here) (w := ⟨_, _⟩) rfl later
      rw [alike.profile] at rest
      exact ⟨_ :: (past ++ more), v, .next arrival (run.append rest), same⟩

/-- Whatever tasks a new device on the bench takes, its tables are what some run of its traffic leaves. -/
theorem tasks_run (list : List Task) (here : i < f.rigs.length) (fresh : (f.rig i).tables = .empty) :
    ∃ past w, Run (f.rig i).profile .idle past w ∧ w.tables = (((tasks i list).run f).2.rig i).tables :=
  tasks_run_of_free list here fresh.symm fun ticket (_ : 0 ≤ ticket) => rfl

end Play

end Emplace.Bench
