import Emplace.Peers.Tracking
import Mathlib.Data.List.Induction

/-!
# Histories of a peer table

Whoever calls a peer table holds its clocks until the call is done, so calls follow one another: a history is any list
of them, each carried out at a moment, on a table that was empty at first. What a table holds is what its history says
last of each device: its clock by `lastHeard`, its entry by `standing`, which also minds removals from the registry
alone.
-/

namespace Emplace

def PeerEntry.announced (entry : PeerEntry) : Announcement := ⟨entry.deviceId, entry.address, entry.latestScore⟩

namespace PeerTable

inductive Call
  | observe (a : Announcement)
  | expire (window : Duration)
  | forget (id : String)

def Call.Forgets : Call → Prop
  | .forget _ => True
  | _ => False

inductive Event
  | observed (now : Moment) (a : Announcement) (taken : Bool)
  | expired (now : Moment) (window : Duration) (gone : List String)
  | forgotten (id : String) (found : Bool)

def perform (localId : String) (now : Moment) (t : PeerTable) : Call → Event × PeerTable
  | .observe a => (.observed now a (t.observe localId now a).1, (t.observe localId now a).2)
  | .expire window => (.expired now window (t.expire now window).1, (t.expire now window).2)
  | .forget id => (.forgotten id (t.forget id).1, (t.forget id).2)

def play (localId : String) (calls : List (Moment × Call)) : List Event × PeerTable :=
  calls.foldl (fun s call =>
    (s.1 ++ [(s.2.perform localId call.1 call.2).1], (s.2.perform localId call.1 call.2).2)) ([], .empty)

def history (localId : String) (calls : List (Moment × Call)) : List Event := (play localId calls).1

def after (localId : String) (calls : List (Moment × Call)) : PeerTable := (play localId calls).2

variable {localId id : String} {calls : List (Moment × Call)} {now : Moment} {call : Call} {t : PeerTable}
  {past : List Event} {e : Event}

theorem history_append_singleton :
    history localId (calls ++ [(now, call)]) =
      history localId calls ++ [((after localId calls).perform localId now call).1] := by
  simp [history, after, play]

theorem after_append_singleton :
    after localId (calls ++ [(now, call)]) = ((after localId calls).perform localId now call).2 := by
  simp [after, play]

def Event.heard? (id : String) : Event → Option (Option (Moment × Announcement))
  | .observed now a true => if a.deviceId = id then some (some (now, a)) else none
  | .expired _ _ gone => if id ∈ gone then some none else none
  | _ => none

def Event.listed? (id : String) : Event → Option (Option (Moment × Announcement))
  | .forgotten other _ => if other = id then some none else none
  | e => e.heard? id

def last (news : Event → Option (Option (Moment × Announcement))) (past : List Event) :
    Option (Moment × Announcement) := (past.filterMap news).getLast?.join

/-- The last announcement of a device that was taken in, unless its expiry followed. -/
def lastHeard (id : String) (past : List Event) : Option (Moment × Announcement) := last (Event.heard? id) past

/-- The last announcement of a device that was taken in, unless its expiry or removal followed. -/
def standing (id : String) (past : List Event) : Option (Moment × Announcement) := last (Event.listed? id) past

theorem last_append_singleton (news : Event → Option (Option (Moment × Announcement))) (past : List Event) (e : Event) :
    last news (past ++ [e]) = (news e).getD (last news past) := by
  cases told : news e <;> simp [last, List.filterMap_append, told]

theorem Event.device_of_heard? {heard : Moment × Announcement} (told : e.heard? id = some (some heard)) :
    heard.2.deviceId = id := by
  unfold Event.heard? at told
  split at told
  · split at told
    · rename_i same
      cases told
      exact same
    · cases told
  · split at told <;> cases told
  · cases told

theorem Event.heard?_of_listed? {heard : Moment × Announcement} (told : e.listed? id = some (some heard)) :
    e.heard? id = some (some heard) := by
  unfold Event.listed? at told
  split at told
  · split at told <;> cases told
  · exact told

theorem device_of_standing {heard : Moment × Announcement} (stands : standing id past = some heard) :
    heard.2.deviceId = id := by
  have member := List.mem_of_getLast? (Option.join_eq_some_iff.1 stands)
  obtain ⟨e, -, told⟩ := List.mem_filterMap.1 member
  exact Event.device_of_heard? (e.heard?_of_listed? told)

theorem mem_silent_iff {window : Duration} :
    id ∈ t.silent now window ↔ ∃ seen, t.lastSeen.get? id = some seen ∧ seen + window.nanos < now.elapsed := by
  rw [silent, Roster.mem_names_iff, Roster.get?_filter, Option.isSome_filter]
  cases t.lastSeen.get? id with
  | none => simp
  | some seen =>
      simp only [Option.any_some, isSilent, decide_eq_true_eq, Option.some.injEq, exists_eq_left']
      omega

theorem get?_foldl_erase {α : Type} (r : Roster α) (gone : List String) (id : String) :
    (gone.foldl Roster.erase r).get? id = if id ∈ gone then none else r.get? id := by
  induction gone generalizing r with
  | nil => simp
  | cons first rest ih =>
      rw [List.foldl_cons, ih, Roster.get?_erase]
      by_cases same : id = first <;> simp [same]

theorem get?_lastSeen_perform (localId : String) (now : Moment) (t : PeerTable) (call : Call) (id : String) :
    (t.perform localId now call).2.lastSeen.get? id =
      (((t.perform localId now call).1.heard? id).map (Option.map fun heard => heard.1.elapsed)).getD
        (t.lastSeen.get? id) := by
  cases call with
  | observe a =>
      by_cases own : a.deviceId = localId
      · simp [perform, observe, own, Event.heard?]
      · simp only [perform, observe, own, if_false, Event.heard?, Roster.get?_insert, eq_comm (a := id)]
        split <;> rfl
  | expire window =>
      simp only [perform, expire, Event.heard?, get?_foldl_erase]
      split <;> rfl
  | forget other => rfl

theorem get?_registry_perform (localId : String) (now : Moment) (t : PeerTable) (call : Call) (id : String) :
    (t.perform localId now call).2.registry.get? id =
      (((t.perform localId now call).1.listed? id).map (Option.map fun heard =>
        Registry.updatedEntry (t.registry.get? id) heard.1.stamp id heard.2.address heard.2.score)).getD
        (t.registry.get? id) := by
  cases call with
  | observe a =>
      by_cases own : a.deviceId = localId
      · simp [perform, observe, own, Event.listed?, Event.heard?]
      · simp only [perform, observe, own, if_false, Event.listed?, Event.heard?, Registry.announce,
          Registry.get?_update, eq_comm (a := id)]
        split
        · rename_i same
          subst same
          rfl
        · rfl
  | expire window =>
      simp only [perform, expire, Event.listed?, Event.heard?, get?_foldl_erase]
      split <;> rfl
  | forget other =>
      simp only [perform, forget, Event.listed?, Registry.get?_remove, eq_comm (a := id)]
      split <;> rfl

theorem heard?_observe_self (own : a.deviceId = localId) (now : Moment) (id : String) :
    (t.perform localId now (.observe a)).1.heard? id = none := by
  simp [perform, observe, own, Event.heard?]

theorem heard?_perform_eq_some {heard : Moment × Announcement}
    (told : (t.perform localId now call).1.heard? id = some (some heard)) :
    call = .observe heard.2 ∧ heard.2.deviceId = id ∧ id ≠ localId := by
  cases call with
  | observe a =>
      by_cases own : a.deviceId = localId
      · rw [heard?_observe_self own] at told
        cases told
      · simp only [perform, observe, own, if_false, Event.heard?, Option.ite_none_right_eq_some] at told
        obtain ⟨rfl, same⟩ := told
        cases same
        exact ⟨rfl, rfl, own⟩
  | expire window =>
      simp only [perform, Event.heard?] at told
      split at told <;> cases told
  | forget other => cases told

theorem announced_updatedEntry {known : Option PeerEntry} {address : String} {score : DeviceScore} {stamp : UInt64}
    (same : ∀ entry, known = some entry → entry.deviceId = id) :
    (Registry.updatedEntry known stamp id address score).announced = ⟨id, address, score⟩ := by
  cases known with
  | none => rfl
  | some entry => simp [Registry.updatedEntry, PeerEntry.announced, same entry rfl]

theorem get?_lastSeen_after (localId : String) (calls : List (Moment × Call)) (id : String) :
    (after localId calls).lastSeen.get? id =
      (lastHeard id (history localId calls)).map fun heard => heard.1.elapsed := by
  induction calls using List.reverseRecOn with
  | nil => rfl
  | append_singleton calls call ih =>
      rw [after_append_singleton, history_append_singleton, get?_lastSeen_perform, ih]
      simp only [lastHeard, last_append_singleton]
      cases ((after localId calls).perform localId call.1 call.2).1.heard? id <;> rfl

theorem device_of_announced {found : Option PeerEntry} {entry : PeerEntry}
    (announced : found.map PeerEntry.announced = (standing id past).map Prod.snd) (there : found = some entry) :
    entry.deviceId = id := by
  rw [there] at announced
  obtain ⟨heard, stands, same⟩ := Option.map_eq_some_iff.1 announced.symm
  exact (congrArg Announcement.deviceId same).symm.trans (device_of_standing stands)

theorem announced_registry_after (localId : String) (calls : List (Moment × Call)) (id : String) :
    ((after localId calls).registry.get? id).map PeerEntry.announced =
      (standing id (history localId calls)).map Prod.snd := by
  induction calls using List.reverseRecOn with
  | nil => rfl
  | append_singleton calls call ih =>
      rw [after_append_singleton, history_append_singleton, get?_registry_perform, standing, last_append_singleton]
      cases told : ((after localId calls).perform localId call.1 call.2).1.listed? id with
      | none => exact ih
      | some news =>
          cases news with
          | none => rfl
          | some heard =>
              -- An entry that is updated keeps its id, so that it must have been right before.
              have known (entry : PeerEntry) (there : (after localId calls).registry.get? id = some entry) :=
                device_of_announced ih there
              have device := Event.device_of_heard? (Event.heard?_of_listed? told)
              exact congrArg some ((announced_updatedEntry known).trans (by rw [← device]))

theorem device_of_registered {entry : PeerEntry} (registered : (after localId calls).registry.get? id = some entry) :
    entry.deviceId = id :=
  device_of_announced (announced_registry_after localId calls id) registered

def Stands (past : List Event) (a : Announcement) : Prop := (standing a.deviceId past).map Prod.snd = some a

theorem Stands.unique {a b : Announcement} (stands : Stands past a) (stands' : Stands past b)
    (same : a.deviceId = b.deviceId) : a = b := by
  rw [Stands, same] at stands
  exact Option.some.inj (stands.symm.trans stands')

theorem mem_values_iff {entry : PeerEntry} :
    entry ∈ (after localId calls).registry.values ↔
      (after localId calls).registry.get? entry.deviceId = some entry := by
  refine List.mem_map.trans ⟨?_, fun registered => ⟨_, (Roster.mem_iff_get? ..).2 registered, rfl⟩⟩
  rintro ⟨⟨id, entry⟩, member, rfl⟩
  have registered := (Roster.mem_iff_get? ..).1 member
  exact (device_of_registered registered).symm ▸ registered

theorem stands_iff {a : Announcement} :
    Stands (history localId calls) a ↔ ∃ entry ∈ (after localId calls).registry.snapshot, entry.announced = a := by
  rw [Stands, ← announced_registry_after, Option.map_eq_some_iff]
  constructor
  · rintro ⟨entry, registered, rfl⟩
    exact ⟨entry, mem_values_iff.2 registered, rfl⟩
  · rintro ⟨entry, member, rfl⟩
    exact ⟨entry, mem_values_iff.1 member, rfl⟩

theorem snapshot_ascending (localId : String) (calls : List (Moment × Call)) :
    (after localId calls).registry.snapshot.Pairwise fun a b => a.deviceId < b.deviceId := by
  refine List.pairwise_map.2 ((Roster.ascending _).imp_of_mem fun {a b} left right lt => ?_)
  have registered := (Roster.mem_iff_get? ..).1 left
  have registered' := (Roster.mem_iff_get? ..).1 right
  rwa [device_of_registered registered, device_of_registered registered']

theorem Stands.other {a : Announcement} (stands : Stands (history localId calls) a) : a.deviceId ≠ localId := by
  induction calls using List.reverseRecOn with
  | nil => cases stands
  | append_singleton calls call ih =>
      rw [Stands, history_append_singleton, standing, last_append_singleton] at stands
      cases told : ((after localId calls).perform localId call.1 call.2).1.listed? a.deviceId with
      | none =>
          rw [told] at stands
          exact ih stands
      | some news =>
          rw [told] at stands
          obtain ⟨heard, rfl, -⟩ := Option.map_eq_some_iff.1 stands
          exact (heard?_perform_eq_some (Event.heard?_of_listed? told)).2.2

theorem stands_observed_iff {a : Announcement} :
    Stands (history localId (calls ++ [(now, .observe a)])) a ↔ a.deviceId ≠ localId := by
  refine ⟨Stands.other, fun other => ?_⟩
  rw [Stands, history_append_singleton, standing, last_append_singleton]
  simp [perform, observe, other, Event.listed?, Event.heard?]

theorem stands_append {before later : List (Moment × Call)} {a : Announcement}
    (stands : Stands (history localId (before ++ later)) a) :
    Stands (history localId before) a ∨ ∃ now, (now, Call.observe a) ∈ later := by
  induction later using List.reverseRecOn with
  | nil => exact .inl (by simpa using stands)
  | append_singleton later call ih =>
      rw [Stands, ← List.append_assoc, history_append_singleton, standing, last_append_singleton] at stands
      cases told : ((after localId (before ++ later)).perform localId call.1 call.2).1.listed? a.deviceId with
      | none =>
          rw [told] at stands
          exact (ih stands).imp_right fun ⟨now, member⟩ => ⟨now, List.mem_append_left _ member⟩
      | some news =>
          rw [told] at stands
          obtain ⟨heard, rfl, rfl⟩ := Option.map_eq_some_iff.1 stands
          obtain ⟨same, -⟩ := heard?_perform_eq_some (Event.heard?_of_listed? told)
          exact .inr ⟨call.1, by simp [← same]⟩

end PeerTable

end Emplace
