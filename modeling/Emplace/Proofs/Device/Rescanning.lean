import Emplace.Proofs.Device.Reloading
import Mathlib.Tactic.ByContra

/-!
# Scanning an unchanged folder again

A reloader remembers one descriptor for each service. A second scan of the same folder is therefore idle exactly if no
service is described in two ways (`rescan`): where one is, every scan puts the earlier description in force again and
then takes it back. What a scan leaves behind (`Remembers`) carries the argument.
-/

namespace Emplace.Device

open Procedure
open Admission (Permissible)

/-- No service is described in two ways, among the descriptors that are accepted. -/
def Consistent (ds : List ServiceDescriptor) : Prop :=
  ∀ d ∈ ds, ∀ e ∈ ds, Permissible d.executable → Permissible e.executable → d.serviceName = e.serviceName → d = e

variable {world : Surroundings interface} {past : List (Asked interface)} {localId : String} {now : Moment}
  {t : Tables} {d : ServiceDescriptor} {ds : List ServiceDescriptor} {applied cache : Applied} {service : String}

theorem of_lastAccepted (last : lastAccepted service ds = some d) :
    d ∈ ds ∧ d.serviceName = service ∧ Permissible d.executable := by
  have member := List.mem_of_getLast? last
  rw [List.mem_filter, decide_eq_true_eq] at member
  exact member

theorem exists_lastAccepted (member : d ∈ ds) (accepted : Permissible d.executable) :
    ∃ e, lastAccepted d.serviceName ds = some e := by
  cases last : lastAccepted d.serviceName ds with
  | some e => exact ⟨e, rfl⟩
  | none =>
      rw [lastAccepted, List.getLast?_eq_none_iff, List.filter_eq_nil_iff] at last
      simpa [accepted] using last d member

theorem consistent_iff :
    Consistent ds ↔ ∀ d ∈ ds, Permissible d.executable → lastAccepted d.serviceName ds = some d := by
  constructor
  · intro consistent d member accepted
    obtain ⟨e, last⟩ := exists_lastAccepted member accepted
    obtain ⟨there, named, alike⟩ := of_lastAccepted last
    rw [last, consistent d member e there accepted alike named.symm]
  · intro last d member e there accepted alike named
    have first := last d member accepted
    rw [named, last e there alike] at first
    exact (Option.some.inj first).symm

def Remembers (cache : Applied) (ds : List ServiceDescriptor) : Prop :=
  ∀ service d, lastAccepted service ds = some d → cache.get? service = some d

theorem found_singleton (ds : List ServiceDescriptor) : found [.ok ds] = ds := List.append_nil ds

theorem get?_reload_ok (applied : Applied) (ds : List ServiceDescriptor) (service : String) :
    ((reload applied (.ok ds)).result world past).2.get? service =
      (lastAccepted service ds).or (applied.get? service) := by
  rw [get?_reload, found_singleton]

theorem remembers_reload (world : Surroundings interface) (past : List (Asked interface)) (applied : Applied)
    (ds : List ServiceDescriptor) : Remembers ((reload applied (.ok ds)).result world past).2 ds := by
  intro service d last
  rw [get?_reload_ok, last]
  rfl

theorem Remembers.get? (remembers : Remembers cache ds) (member : d ∈ ds) (accepted : Permissible d.executable) :
    cache.get? d.serviceName = lastAccepted d.serviceName ds := by
  obtain ⟨e, last⟩ := exists_lastAccepted member accepted
  rw [remembers _ e last, last]

theorem Remembers.cache_reload (remembers : Remembers cache ds) (world : Surroundings interface)
    (past : List (Asked interface)) : ((reload cache (.ok ds)).result world past).2 = cache := by
  apply Roster.ext_get?
  intro service
  rw [get?_reload_ok]
  cases last : lastAccepted service ds with
  | none => rfl
  | some d => exact (remembers service d last).symm

theorem le_count_applyFrom (count : Nat) (applied : Applied) (ds : List ServiceDescriptor) :
    count ≤ ((applyFrom count applied ds).result world past).1 := by
  rw [count_applyFrom]
  exact Nat.le_add_right ..

theorem lt_count_applyFrom {count : Nat} (changed : ((applyFrom count applied ds).result world past).2 ≠ applied) :
    count < ((applyFrom count applied ds).result world past).1 := by
  induction ds generalizing applied count past with
  | nil => exact absurd rfl changed
  | cons d ds ih =>
      rw [applyFrom_cons, result_andThen] at changed ⊢
      by_cases changes : Changes applied d
      · rw [applyChanged_of_changes changes]
        exact le_count_applyFrom ..
      · rw [applyChanged_of_not_changes changes] at changed ⊢
        exact ih changed

theorem exists_first_change (count : Nat) (applied : Applied) (changes : ∃ d ∈ ds, Changes applied d) :
    ∃ front d back, ds = front ++ d :: back ∧ Changes applied d ∧
      applyFrom count applied ds = (applyChanged count applied d).andThen fun s => applyFrom s.1 s.2 back := by
  induction ds with
  | nil =>
      obtain ⟨d, member, -⟩ := changes
      cases member
  | cons d ds ih =>
      by_cases first : Changes applied d
      · exact ⟨[], d, ds, rfl, first, rfl⟩
      · obtain ⟨e, member, later⟩ := changes
        have rest : e ∈ ds := by
          rcases List.mem_cons.1 member with rfl | rest
          · exact absurd later first
          · exact rest
        obtain ⟨front, c, back, rfl, changes, same⟩ := ih ⟨e, rest, later⟩
        refine ⟨d :: front, c, back, rfl, changes, ?_⟩
        rw [applyFrom_cons, applyChanged_of_not_changes first]
        exact same

def Wrote (d : ServiceDescriptor) (log : List (Asked interface)) : Prop :=
  ⟨Step.access (.setCommand d.serviceName d.executable), ()⟩ ∈ log ∧
    ⟨Step.access (.setAllowList d.serviceName d.allowedRequesters), ()⟩ ∈ log

theorem two_le_count_applyFrom (changes : ∃ d ∈ ds, Changes applied d)
    (restored : ((applyFrom 0 applied ds).result world past).2 = applied) :
    2 ≤ ((applyFrom 0 applied ds).result world past).1 ∧
      ∃ d ∈ ds, Changes applied d ∧ Wrote d ((applyFrom 0 applied ds).transcript world past) := by
  obtain ⟨front, d, back, rfl, changes, first⟩ := exists_first_change 0 applied changes
  rw [first, applyChanged_of_changes changes] at restored ⊢
  constructor
  · apply lt_count_applyFrom
    intro kept
    -- The rest of the scan would have to leave the first change as it is.
    have same : applied.insert d.serviceName d = applied := kept.symm.trans restored
    apply changes.1
    rw [← same, Roster.get?_insert_self]
  · exact ⟨d, by simp, changes, List.mem_cons_self, List.mem_cons_of_mem _ List.mem_cons_self⟩

theorem Remembers.applyFrom (remembers : Remembers cache ds) :
    ((Device.applyFrom 0 cache ds).result world past).2 = cache := by
  have restored := remembers.cache_reload world past
  rwa [reload_ok, result_andThen, result_done] at restored

theorem Remembers.repeats (remembers : Remembers cache ds) (rival : ¬Consistent ds) (world : Surroundings interface)
    (past : List (Asked interface)) :
    2 ≤ ((Device.applyFrom 0 cache ds).result world past).1 ∧ ∃ d ∈ ds, lastAccepted d.serviceName ds ≠ some d ∧
      Wrote d ((Device.applyFrom 0 cache ds).transcript world past) := by
  have changes : ∃ d ∈ ds, Changes cache d := by
    by_contra none
    apply rival
    rw [consistent_iff]
    intro d member accepted
    by_contra other
    rw [← remembers.get? member accepted] at other
    exact none ⟨d, member, other, accepted⟩
  obtain ⟨two, d, member, changes, wrote⟩ := two_le_count_applyFrom changes remembers.applyFrom
  refine ⟨two, d, member, ?_, wrote⟩
  rw [← remembers.get? member changes.2]
  exact changes.1

theorem Remembers.idle (remembers : Remembers cache ds) (consistent : Consistent ds) :
    reload cache (.ok ds) = done (.ok 0, cache) := by
  rw [reload_ok, applyFrom_of_known 0, done_andThen]
  intro d member accepted
  rw [remembers.get? member accepted, consistent_iff.1 consistent d member accepted]

theorem foldl_take_rest (t : Tables) (ds : List ServiceDescriptor) :
    (ds.foldl Tables.take t).peers = t.peers ∧ (ds.foldl Tables.take t).closed = t.closed := by
  induction ds generalizing t with
  | nil => exact ⟨rfl, rfl⟩
  | cons d ds ih =>
      obtain ⟨peers, closed⟩ := ih (t.take d)
      rw [List.foldl_cons, peers, closed, Tables.take]
      split <;> exact ⟨rfl, rfl⟩

theorem Remembers.foldl_take (remembers : Remembers cache ds) (cached : Cached cache t) :
    ds.foldl Tables.take t = t := by
  have commands : (ds.foldl Tables.take t).commands = t.commands := by
    apply Roster.ext_get?
    intro service
    rw [(get?_foldl_take t ds service).1]
    cases last : lastAccepted service ds with
    | none => rfl
    | some d => exact (cached service d (remembers service d last)).2.1.symm
  have allowLists : (ds.foldl Tables.take t).allowLists = t.allowLists := by
    apply Roster.ext_get?
    intro service
    rw [(get?_foldl_take t ds service).2]
    cases last : lastAccepted service ds with
    | none => rfl
    | some d => exact (cached service d (remembers service d last)).2.2.symm
  obtain ⟨peers, closed⟩ := foldl_take_rest t ds
  generalize ds.foldl Tables.take t = after at commands allowLists peers closed ⊢
  cases after
  cases t
  simp_all

structure Rescan (world : Surroundings interface) (past : List (Asked interface)) (cache : Applied)
    (ds : List ServiceDescriptor) : Prop where
  idle : reload cache (.ok ds) = done (.ok 0, cache) ↔ Consistent ds
  repeated : ¬Consistent ds → ∃ count, 2 ≤ count ∧ ((reload cache (.ok ds)).result world past).1 = .ok count ∧
    ∃ d ∈ ds, lastAccepted d.serviceName ds ≠ some d ∧ Wrote d ((reload cache (.ok ds)).transcript world past)
  kept : ((reload cache (.ok ds)).result world past).2 = cache
  tables : ∀ localId now t, Cached cache t →
    t.followed localId now ((reload cache (.ok ds)).transcript world past) = t

/-- A second scan of an unchanged folder, whatever was applied before the first, asks for nothing and counts nothing
exactly if no service is described in two ways. -/
theorem rescan (world world' : Surroundings interface) (past past' : List (Asked interface)) (applied : Applied)
    (ds : List ServiceDescriptor) : Rescan world past ((reload applied (.ok ds)).result world' past').2 ds := by
  have remembers := remembers_reload world' past' applied ds
  generalize ((reload applied (.ok ds)).result world' past').2 = cache at remembers
  have counted (rival : ¬Consistent ds) : ∃ count, 2 ≤ count ∧
      ((reload cache (.ok ds)).result world past).1 = .ok count ∧ ∃ d ∈ ds,
        lastAccepted d.serviceName ds ≠ some d ∧ Wrote d ((reload cache (.ok ds)).transcript world past) := by
    obtain ⟨two, d, member, rivalled, wrote⟩ := remembers.repeats rival world past
    refine ⟨_, two, by rw [reload_ok, result_andThen, result_done], d, member, rivalled, ?_⟩
    rwa [reload_ok, transcript_andThen, transcript_done, List.append_nil]
  constructor
  · constructor
    · intro idle
      by_contra rival
      obtain ⟨count, two, answer, -⟩ := counted rival
      rw [idle, result_done, Except.ok.injEq] at answer
      omega
    · exact remembers.idle
  · exact counted
  · exact remembers.cache_reload world past
  · intro localId now t cached
    rw [cached.followed_reload, found_singleton]
    exact remembers.foldl_take cached

/-- Two files that describe one service in two ways: the second scan applies both again, and meanwhile the requester
that only the first file lists is allowed once more. -/
theorem rescan_two_descriptions :
    ∃ first second : ServiceDescriptor,
      Files.descriptorOf? (Text.encode
        "service_name = \"dup\"\nexecutable = \"/opt/one\"\nallowed_requesters = [\"c1\"]\n".toList) = some first ∧
      Files.descriptorOf? (Text.encode
        "service_name = \"dup\"\nexecutable = \"/opt/two\"\nallowed_requesters = [\"c2\"]\n".toList) = some second ∧
      ∀ world past world' past',
        let cache := ((reload .empty (.ok [first, second])).result world past).2
        ((reload cache (.ok [first, second])).result world' past').1 = .ok 2 ∧
          Wrote first ((reload cache (.ok [first, second])).transcript world' past') := by
  refine ⟨⟨"dup", "/opt/one", ["c1"]⟩, ⟨"dup", "/opt/two", ["c2"]⟩, by decide +kernel, by decide +kernel, ?_⟩
  intro world past world' past'
  exact ⟨rfl, List.mem_cons_self, List.mem_cons_of_mem _ List.mem_cons_self⟩

end Emplace.Device
