import Emplace.Proofs.Peers.History
import Emplace.Proofs.Text.Utf8
import Mathlib.Data.List.DropRight
import Mathlib.Data.List.ReduceOption
import Mathlib.Data.List.Sort

namespace Emplace.Registry

inductive Call
  | update (stamp : UInt64) (id address : String) (score : DeviceScore)
  | announce (stamp : UInt64) (a : Announcement)
  | remove (id : String)
  | expire (id : String)

structure Written where
  stamp : UInt64
  address : String
  score : DeviceScore

namespace Call

def device : Call → String
  | .update _ id _ _ => id
  | .announce _ a => a.deviceId
  | .remove id => id
  | .expire id => id

def written? : Call → Option Written
  | .update stamp _ address score => some ⟨stamp, address, score⟩
  | .announce stamp a => some ⟨stamp, a.address, a.score⟩
  | .remove _ => none
  | .expire _ => none

def unstamped : Call → Call
  | .update _ id address score => .update 0 id address score
  | .announce _ a => .announce 0 a
  | call => call

end Call

def perform (r : Registry) : Call → Registry
  | .update stamp id address score => r.update stamp id address score
  | .announce stamp a => r.announce stamp a
  | .remove id => (r.remove id).2
  | .expire id => (r.remove id).2

def after (calls : List Call) : Registry := calls.foldl perform .empty

def about (id : String) (calls : List Call) : List Call := calls.filter fun call => call.device == id

def stay (id : String) (calls : List Call) : List Written :=
  (((about id calls).map Call.written?).rtakeWhile Option.isSome).reduceOption

/-- The entry of a device after a stay: what the last update wrote, and the stamp of the first. -/
def entryOf? (id : String) (writes : List Written) : Option PeerEntry :=
  writes.getLast?.bind fun last => writes.head?.map fun first => ⟨id, last.address, last.score, first.stamp⟩

variable {id : String} {calls calls' : List Call} {entry : PeerEntry}

theorem perform_of_written {call : Call} {w : Written} (r : Registry) (written : call.written? = some w) :
    perform r call = r.update w.stamp call.device w.address w.score := by
  cases call <;> cases written <;> rfl

theorem perform_of_removal {call : Call} (r : Registry) (removal : call.written? = none) :
    perform r call = (r.remove call.device).2 := by
  cases call <;> first | rfl | cases removal

theorem get?_perform_self (r : Registry) (call : Call) :
    (perform r call).get? call.device =
      call.written?.map fun w => updatedEntry (r.get? call.device) w.stamp call.device w.address w.score := by
  cases written : call.written? with
  | none => rw [perform_of_removal r written, get?_remove, if_pos rfl, Option.map_none]
  | some w => rw [perform_of_written r written, get?_update, if_pos rfl, Option.map_some]

theorem get?_perform_of_ne (r : Registry) {call : Call} (other : call.device ≠ id) :
    (perform r call).get? id = r.get? id := by
  cases written : call.written? with
  | none => rw [perform_of_removal r written, get?_remove, if_neg other.symm]
  | some w => rw [perform_of_written r written, get?_update, if_neg other.symm]

theorem about_append_singleton (id : String) (calls : List Call) (call : Call) :
    about id (calls ++ [call]) = about id calls ++ if call.device = id then [call] else [] := by
  by_cases own : call.device = id <;> simp [about, List.filter_append, own]

theorem stay_append_self (calls : List Call) (call : Call) :
    stay call.device (calls ++ [call]) =
      (call.written?.map fun w => stay call.device calls ++ [w]).getD [] := by
  rw [stay, about_append_singleton, if_pos rfl, List.map_append, List.map_singleton, List.rtakeWhile_concat]
  cases call.written? with
  | none => rfl
  | some w => exact List.reduceOption_append _ _

theorem stay_append_of_ne (calls : List Call) {call : Call} (other : call.device ≠ id) :
    stay id (calls ++ [call]) = stay id calls := by
  rw [stay, about_append_singleton, if_neg other, List.append_nil, stay]

theorem updatedEntry_entryOf? (writes : List Written) (w : Written) :
    some (updatedEntry (entryOf? id writes) w.stamp id w.address w.score) = entryOf? id (writes ++ [w]) := by
  cases writes with
  | nil => rfl
  | cons first writes =>
      have last : (first :: writes).getLast? = some ((first :: writes).getLast (List.cons_ne_nil _ _)) :=
        List.getLast?_eq_some_getLast _
      rw [entryOf?, entryOf?, last, List.getLast?_concat]
      rfl

theorem after_append_singleton (calls : List Call) (call : Call) :
    after (calls ++ [call]) = perform (after calls) call := by
  simp [after]

theorem get?_after (calls : List Call) (id : String) : (after calls).get? id = entryOf? id (stay id calls) := by
  induction calls using List.reverseRecOn with
  | nil => rfl
  | append_singleton calls call ih =>
      rw [after_append_singleton]
      by_cases own : call.device = id
      · subst own
        rw [get?_perform_self, stay_append_self, ih]
        cases call.written? with
        | none => rfl
        | some w => exact updatedEntry_entryOf? (stay call.device calls) w
      · rw [get?_perform_of_ne _ own, stay_append_of_ne _ own, ih]

theorem deviceId_of_get? (there : (after calls).get? id = some entry) : entry.deviceId = id := by
  rw [get?_after, entryOf?] at there
  obtain ⟨last, -, there⟩ := Option.bind_eq_some_iff.1 there
  obtain ⟨first, -, rfl⟩ := Option.map_eq_some_iff.1 there
  rfl

theorem entryOf?_eq_some_iff {writes : List Written} :
    entryOf? id writes = some entry ↔ ∃ first last, writes.head? = some first ∧ writes.getLast? = some last ∧
      entry = ⟨id, last.address, last.score, first.stamp⟩ := by
  simp only [entryOf?, Option.bind_eq_some_iff, Option.map_eq_some_iff]
  constructor
  · rintro ⟨last, ends, first, starts, rfl⟩
    exact ⟨first, last, starts, ends, rfl⟩
  · rintro ⟨first, last, starts, ends, rfl⟩
    exact ⟨last, ends, first, starts, rfl⟩

theorem isSome_entryOf?_iff {writes : List Written} : (entryOf? id writes).isSome ↔ writes ≠ [] := by
  cases writes with
  | nil => simp [entryOf?]
  | cons first writes => simp [entryOf?, List.getLast?_eq_some_getLast (List.cons_ne_nil first writes)]

theorem mem_snapshot_iff : entry ∈ (after calls).snapshot ↔ (after calls).get? entry.deviceId = some entry := by
  constructor
  · intro member
    obtain ⟨⟨id, entry'⟩, inside, rfl⟩ := List.mem_map.1 member
    have there := (Roster.mem_iff_get? ..).1 inside
    rwa [deviceId_of_get? there]
  · exact fun there => List.mem_map.2 ⟨_, (Roster.mem_iff_get? ..).2 there, rfl⟩

theorem snapshot_pairwise_lt (calls : List Call) :
    (after calls).snapshot.Pairwise fun a b => a.deviceId < b.deviceId := by
  refine List.pairwise_map.2 ((after calls).ascending.imp_of_mem fun {a b} left right lt => ?_)
  rwa [deviceId_of_get? ((Roster.mem_iff_get? ..).1 left), deviceId_of_get? ((Roster.mem_iff_get? ..).1 right)]

theorem existsUnique_of_stay (nonempty : stay id calls ≠ []) :
    ∃! entry, entry ∈ (after calls).snapshot ∧ entry.deviceId = id := by
  have there : ((after calls).get? id).isSome := by
    rw [get?_after]
    exact isSome_entryOf?_iff.2 nonempty
  obtain ⟨entry, there⟩ := Option.isSome_iff_exists.1 there
  obtain rfl := deviceId_of_get? there
  refine ⟨entry, ⟨mem_snapshot_iff.2 there, rfl⟩, ?_⟩
  rintro other ⟨member, same⟩
  have again := mem_snapshot_iff.1 member
  rw [same] at again
  exact Option.some.inj (again.symm.trans there)

theorem get?_eq_find? (calls : List Call) (id : String) :
    (after calls).get? id = (after calls).snapshot.find? fun entry => entry.deviceId == id := by
  cases found : (after calls).snapshot.find? fun entry => entry.deviceId == id with
  | some entry =>
      obtain rfl : entry.deviceId = id := by simpa using List.find?_some found
      exact mem_snapshot_iff.1 (List.mem_of_find?_eq_some found)
  | none =>
      rw [List.find?_eq_none] at found
      by_contra there
      obtain ⟨entry, there⟩ := Option.ne_none_iff_exists'.1 there
      obtain rfl := deviceId_of_get? there
      exact absurd (mem_snapshot_iff.2 there) fun member => found entry member (by simp)

theorem written?_unstamped (call : Call) :
    call.unstamped.written? = call.written?.map fun w => { w with stamp := 0 } := by
  cases call <;> rfl

theorem map_rtakeWhile_reduceOption {α : Type} (f : α → α) (written : List (Option α)) :
    ((written.map (Option.map f)).rtakeWhile Option.isSome).reduceOption =
      ((written.rtakeWhile Option.isSome).reduceOption).map f := by
  induction written using List.reverseRecOn with
  | nil => rfl
  | append_singleton written w ih =>
      rw [List.map_append, List.map_singleton, List.rtakeWhile_concat, List.rtakeWhile_concat]
      cases w with
      | none => rfl
      | some a =>
          have last : [some a].reduceOption = [a] := rfl
          simp [List.reduceOption_append, ih, last]

theorem stay_unstamped (id : String) (calls : List Call) :
    ((((about id calls).map Call.unstamped).map Call.written?).rtakeWhile Option.isSome).reduceOption =
      (stay id calls).map fun w => { w with stamp := 0 } := by
  rw [stay, ← map_rtakeWhile_reduceOption, List.map_map, List.map_map]
  congr 2
  exact List.map_congr_left fun call _ => written?_unstamped call

theorem announced_entryOf? (id : String) (writes : List Written) :
    (entryOf? id writes).map PeerEntry.announced =
      (entryOf? id (writes.map fun w => { w with stamp := 0 })).map PeerEntry.announced := by
  cases writes with
  | nil => rfl
  | cons first writes =>
      have last : (first :: writes).getLast? = some ((first :: writes).getLast (List.cons_ne_nil _ _)) :=
        List.getLast?_eq_some_getLast _
      rw [entryOf?, entryOf?, List.getLast?_map, last]
      rfl

theorem announced_get?_after (same : (about id calls').map Call.unstamped = (about id calls).map Call.unstamped) :
    ((after calls').get? id).map PeerEntry.announced = ((after calls).get? id).map PeerEntry.announced := by
  rw [get?_after, get?_after, announced_entryOf?, ← stay_unstamped, same, stay_unstamped, ← announced_entryOf?]

theorem mem_announced_iff {a : Announcement} :
    a ∈ (after calls).snapshot.map PeerEntry.announced ↔
      ((after calls).get? a.deviceId).map PeerEntry.announced = some a := by
  rw [List.mem_map, Option.map_eq_some_iff]
  constructor
  · rintro ⟨entry, member, rfl⟩
    exact ⟨entry, mem_snapshot_iff.1 member, rfl⟩
  · rintro ⟨entry, there, rfl⟩
    exact ⟨entry, mem_snapshot_iff.2 there, rfl⟩

theorem announced_snapshot (same : ∀ id, (about id calls').map Call.unstamped = (about id calls).map Call.unstamped) :
    (after calls').snapshot.map PeerEntry.announced = (after calls).snapshot.map PeerEntry.announced := by
  have irrefl : Std.Irrefl fun a b : Announcement => a.deviceId < b.deviceId := ⟨fun a => String.lt_irrefl _⟩
  have asymm : Std.Antisymm fun a b : Announcement => a.deviceId < b.deviceId :=
    ⟨fun a b lt gt => absurd gt (String.lt_asymm lt)⟩
  have ascending (calls : List Call) : ((after calls).snapshot.map PeerEntry.announced).Pairwise
      fun a b => a.deviceId < b.deviceId := List.pairwise_map.2 (snapshot_pairwise_lt calls)
  refine (ascending calls').eq_of_mem_iff (ascending calls) fun a => ?_
  rw [mem_announced_iff, mem_announced_iff, announced_get?_after (same a.deviceId)]

structure LastWrites (calls : List Call) : Prop where
  ascending : (after calls).snapshot.Pairwise fun a b => Text.bytesOf a.deviceId < Text.bytesOf b.deviceId
  keyed : ∀ id entry, (id, entry) ∈ (after calls).entries → entry.deviceId = id
  one : ∀ id, stay id calls ≠ [] → ∃! entry, entry ∈ (after calls).snapshot ∧ entry.deviceId = id
  written : ∀ entry ∈ (after calls).snapshot, ∃ first last, (stay entry.deviceId calls).head? = some first ∧
    (stay entry.deviceId calls).getLast? = some last ∧
    entry = ⟨entry.deviceId, last.address, last.score, first.stamp⟩
  removed : ∀ id, ((after calls).remove id).1 = true ↔ ∃ entry ∈ (after calls).snapshot, entry.deviceId = id
  size : (after calls).size = (after calls).snapshot.length
  isEmpty : (after calls).isEmpty = (after calls).snapshot.isEmpty
  get? : ∀ id, (after calls).get? id = (after calls).snapshot.find? fun entry => entry.deviceId == id
  addressOf? : ∀ id, (after calls).addressOf? id =
    ((after calls).snapshot.find? fun entry => entry.deviceId == id).map PeerEntry.address
  reordered : ∀ calls', (∀ id, (about id calls').map Call.unstamped = (about id calls).map Call.unstamped) →
    (after calls').snapshot.map PeerEntry.announced = (after calls).snapshot.map PeerEntry.announced

theorem lastWrites (calls : List Call) : LastWrites calls where
  ascending := (snapshot_pairwise_lt calls).imp Text.bytesOf_lt_bytesOf
  keyed id entry inside := deviceId_of_get? ((Roster.mem_iff_get? ..).1 inside)
  one _ := existsUnique_of_stay
  written entry member := by
    have there := mem_snapshot_iff.1 member
    rw [get?_after] at there
    exact entryOf?_eq_some_iff.1 there
  removed id := by
    rw [show ((after calls).remove id).1 = ((after calls).get? id).isSome from rfl, get?_eq_find?, List.find?_isSome]
    simp
  size := by simp [Roster.size, snapshot, Roster.values]
  isEmpty := by simp [Roster.isEmpty, snapshot, Roster.values, List.isEmpty_map]
  get? := get?_eq_find? calls
  addressOf? id := by rw [Registry.addressOf?, get?_eq_find?]
  reordered _ := announced_snapshot

end Emplace.Registry
