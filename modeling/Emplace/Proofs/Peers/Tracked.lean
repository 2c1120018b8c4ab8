import Emplace.Proofs.Peers.History
import Mathlib.Data.List.Sort

namespace Emplace.PeerTable

variable {localId id : String} {calls before middle : List (Moment × Call)} {now : Moment} {call : Call} {t : PeerTable}
  {past : List Event} {e : Event} {a : Announcement} {heard : Moment × Announcement} {window : Duration}

theorem Event.listed?_eq_heard? (kept : ∀ found, e ≠ .forgotten id found) : e.listed? id = e.heard? id := by
  unfold Event.listed?
  split
  · rename_i other found
    split
    · rename_i same
      exact absurd (same ▸ rfl) (kept found)
    · rfl
  · rfl

theorem lastHeard_of_standing (stands : standing id past = some heard) : lastHeard id past = some heard := by
  induction past using List.reverseRecOn with
  | nil => exact stands
  | append_singleton past e ih =>
      rw [standing, last_append_singleton] at stands
      rw [lastHeard, last_append_singleton]
      by_cases kept : ∀ found, e ≠ .forgotten id found
      · rw [Event.listed?_eq_heard? kept] at stands
        cases told : e.heard? id with
        | none =>
            rw [told] at stands
            exact ih stands
        | some news =>
            rw [told] at stands
            exact stands
      · -- After a removal nothing stands.
        obtain ⟨found, rfl⟩ := not_forall_not.1 kept
        simp [Event.listed?] at stands

theorem standing_eq_lastHeard (kept : ∀ call ∈ calls, ¬call.2.Forgets) (id : String) :
    standing id (history localId calls) = lastHeard id (history localId calls) := by
  induction calls using List.reverseRecOn with
  | nil => rfl
  | append_singleton calls call ih =>
      have earlier := ih fun c member => kept c (List.mem_append_left _ member)
      have this := kept call (by simp)
      rw [history_append_singleton, standing, lastHeard, last_append_singleton, last_append_singleton,
        Event.listed?_eq_heard?]
      · exact congrArg _ earlier
      · intro found same
        obtain ⟨now, call⟩ := call
        cases call with
        | observe | expire => cases same
        | forget => exact this trivial

theorem mem_lastSeen_names_iff :
    id ∈ (after localId calls).lastSeen.names ↔ (lastHeard id (history localId calls)).isSome := by
  rw [Roster.mem_names_iff, get?_lastSeen_after, Option.isSome_map]

theorem mem_registry_names_iff :
    id ∈ (after localId calls).registry.names ↔ (standing id (history localId calls)).isSome := by
  rw [Roster.mem_names_iff, ← Option.isSome_map, announced_registry_after, Option.isSome_map]

theorem tracked_of_registered (registered : id ∈ (after localId calls).registry.names) :
    id ∈ (after localId calls).lastSeen.names := by
  obtain ⟨heard, stands⟩ := Option.isSome_iff_exists.1 (mem_registry_names_iff.1 registered)
  rw [mem_lastSeen_names_iff, lastHeard_of_standing stands]
  rfl

theorem names_ext {α β : Type} {r : Roster α} {s : Roster β} (same : ∀ id, id ∈ r.names ↔ id ∈ s.names) :
    r.names = s.names :=
  r.ascending_names.eq_of_mem_iff s.ascending_names same

theorem localId_not_tracked (localId : String) (calls : List (Moment × Call)) :
    localId ∉ (after localId calls).lastSeen.names := by
  rw [mem_lastSeen_names_iff, Option.not_isSome_iff_eq_none]
  induction calls using List.reverseRecOn with
  | nil => rfl
  | append_singleton calls call ih =>
      rw [history_append_singleton, lastHeard, last_append_singleton]
      cases told : ((after localId calls).perform localId call.1 call.2).1.heard? localId with
      | none => exact ih
      | some news =>
          cases news with
          | none => rfl
          | some heard => exact absurd rfl (heard?_perform_eq_some told).2.2

theorem mem_expire_iff :
    id ∈ ((after localId calls).expire now window).1 ↔
      ∃ heard, lastHeard id (history localId calls) = some heard ∧
        heard.1.elapsed + window.nanos < now.elapsed := by
  refine mem_silent_iff.trans ?_
  rw [get?_lastSeen_after]
  cases lastHeard id (history localId calls) <;> simp

theorem lastHeard_eq_none_of_silence {first : Moment}
    (gone : id ∈ ((after localId before).expire first window).1)
    (silence : ∀ now a, (now, Call.observe a) ∈ middle → a.deviceId ≠ id) :
    lastHeard id (history localId (before ++ (first, .expire window) :: middle)) = none := by
  induction middle using List.reverseRecOn with
  | nil =>
      rw [history_append_singleton, lastHeard, last_append_singleton]
      have told : (perform localId first (after localId before) (.expire window)).1.heard? id = some none := if_pos gone
      rw [told]
      rfl
  | append_singleton middle call ih =>
      have earlier := ih fun now a member => silence now a (List.mem_append_left _ member)
      rw [← List.cons_append, ← List.append_assoc, history_append_singleton, lastHeard, last_append_singleton]
      cases told : ((after localId (before ++ (first, .expire window) :: middle)).perform localId call.1
          call.2).1.heard? id with
      | none => exact earlier
      | some news =>
          cases news with
          | none => rfl
          | some heard =>
              obtain ⟨same, device, -⟩ := heard?_perform_eq_some told
              have member : (call.1, Call.observe heard.2) ∈ middle ++ [call] := by simp [← same]
              exact absurd device (silence call.1 heard.2 member)

structure KeepsTrack (localId : String) (calls : List (Moment × Call)) : Prop where
  same_ids : (∀ call ∈ calls, ¬call.2.Forgets) →
    (after localId calls).lastSeen.names = (after localId calls).registry.names
  registered_tracked : ∀ id ∈ (after localId calls).registry.names, id ∈ (after localId calls).lastSeen.names
  itself : localId ∉ (after localId calls).lastSeen.names
  own : ∀ now a, a.deviceId = localId → (after localId calls).observe localId now a = (false, after localId calls)
  taken : ∀ now a, a.deviceId ≠ localId → ∃ t entry, (after localId calls).observe localId now a = (true, t) ∧
    t.lastSeen.get? a.deviceId = some now.elapsed ∧ t.registry.get? a.deviceId = some entry ∧ entry.announced = a ∧
    entry.registeredAt =
      (((after localId calls).registry.get? a.deviceId).map PeerEntry.registeredAt).getD now.stamp ∧
    ∀ id, id ≠ a.deviceId → t.lastSeen.get? id = (after localId calls).lastSeen.get? id ∧
      t.registry.get? id = (after localId calls).registry.get? id
  expiry : ∀ now window, ∃ gone t, (after localId calls).expire now window = (gone, t) ∧ gone.Nodup ∧
    (∀ id, id ∈ gone ↔ ∃ heard, lastHeard id (history localId calls) = some heard ∧
      heard.1.elapsed + window.nanos < now.elapsed) ∧
    (∀ id ∈ gone, t.lastSeen.get? id = none ∧ t.registry.get? id = none) ∧
    ∀ id, id ∉ gone → t.lastSeen.get? id = (after localId calls).lastSeen.get? id ∧
      t.registry.get? id = (after localId calls).registry.get? id
  /-- Between two expiries that list a device it was observed. -/
  once : ∀ before first window middle, calls = before ++ (first, .expire window) :: middle →
    ∀ id, id ∈ ((after localId before).expire first window).1 →
      ∀ now window, id ∈ ((after localId calls).expire now window).1 →
        ∃ seen a, (seen, Call.observe a) ∈ middle ∧ a.deviceId = id

theorem keepsTrack (localId : String) (calls : List (Moment × Call)) : KeepsTrack localId calls where
  same_ids kept := names_ext fun id => by
    rw [mem_lastSeen_names_iff, mem_registry_names_iff, standing_eq_lastHeard kept]
  registered_tracked _ := tracked_of_registered
  itself := localId_not_tracked localId calls
  own now a own := if_pos own
  taken now a other := by
    have device (entry : PeerEntry) (there : (after localId calls).registry.get? a.deviceId = some entry) :
        entry.deviceId = a.deviceId := device_of_registered there
    refine ⟨_, _, if_neg other, Roster.get?_insert_self .., Registry.get?_update .. |>.trans (if_pos rfl),
      announced_updatedEntry device, ?_, fun id ne => ⟨?_, ?_⟩⟩
    · cases (after localId calls).registry.get? a.deviceId <;> rfl
    · exact (Roster.get?_insert ..).trans (if_neg ne)
    · exact (Registry.get?_update ..).trans (if_neg ne)
  expiry now window := by
    refine ⟨_, _, rfl, ?_, fun id => mem_expire_iff, fun id gone => ⟨?_, ?_⟩, fun id kept => ⟨?_, ?_⟩⟩
    · exact (Roster.ascending_names _).imp String.ne_of_lt
    · exact (get?_foldl_erase ..).trans (if_pos gone)
    · exact (get?_foldl_erase ..).trans (if_pos gone)
    · exact (get?_foldl_erase ..).trans (if_neg kept)
    · exact (get?_foldl_erase ..).trans (if_neg kept)
  once := by
    rintro before first window middle rfl id gone now window again
    obtain ⟨heard, told, -⟩ := mem_expire_iff.1 again
    by_contra unheard
    push Not at unheard
    cases (lastHeard_eq_none_of_silence gone unheard).symm.trans told

end Emplace.PeerTable
