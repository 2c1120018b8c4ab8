import Emplace.Proofs.Device.Steps
import Emplace.Proofs.Procedure.Play

/-!
# The cache of a reloader is invisible

A reloader skips the descriptors that it last applied. Whatever it skips stands in both tables (`Cached`), so the tables
are those of a reloader that applies every descriptor of every scan (`cacheInvisible`).
-/

namespace Emplace

open Procedure Device

def Tables.followed (localId : String) (now : Moment) (t : Tables) (log : List (Asked interface)) : Tables :=
  log.foldl (fun t asked =>
    match asked.step with
    | .access a => (t.apply localId now a).2
    | .call _ => t) t

theorem Tables.followed_append (localId : String) (now : Moment) (t : Tables) (log log' : List (Asked interface)) :
    t.followed localId now (log ++ log') = (t.followed localId now log).followed localId now log' :=
  List.foldl_append

def Tables.take (t : Tables) (d : ServiceDescriptor) : Tables :=
  if Admission.Permissible d.executable then
    { t with
      commands := t.commands.insert d.serviceName d.executable
      allowLists := t.allowLists.store d.serviceName d.allowedRequesters }
  else t

theorem Roster.insert_of_get? {α : Type} {r : Roster α} {name : String} {value : α}
    (known : r.get? name = some value) : r.insert name value = r := by
  refine Roster.ext_get? fun other => ?_
  rw [Roster.get?_insert]
  split
  · rename_i same
    exact known.symm.trans (congrArg r.get? same.symm)
  · rfl

namespace Device

open Admission (Permissible)

abbrev Scan := Except Files.WalkError (List ServiceDescriptor)

def found (scans : List Scan) : List ServiceDescriptor :=
  scans.flatMap fun
    | .ok ds => ds
    | .error _ => []

def reloadFrom (applied : Applied) : List Scan → Request Applied
  | [] => return applied
  | scan :: scans => do
    let (_, applied) ← reload applied scan
    reloadFrom applied scans

def reloads (scans : List Scan) : Request Applied := reloadFrom .empty scans

def applyAll : List ServiceDescriptor → Request Unit
  | [] => return ()
  | d :: ds => do
    let _ ← (applyDescriptor d).run
    applyAll ds

def reloadsUncached : List Scan → Request Unit
  | [] => return ()
  | .error _ :: scans => reloadsUncached scans
  | .ok ds :: scans => do
    applyAll ds
    reloadsUncached scans

variable {world : Surroundings interface} {past : List (Asked interface)} {localId : String} {now : Moment}
  {t : Tables} {d : ServiceDescriptor} {ds : List ServiceDescriptor} {applied : Applied} {count : Nat} {service : String}

/-! ## One descriptor -/

theorem run_applyDescriptor (accepted : Permissible d.executable) :
    (applyDescriptor d).run =
      ask (Step.access (.setCommand d.serviceName d.executable)) fun _ =>
        ask (Step.access (.setAllowList d.serviceName d.allowedRequesters)) fun _ => done (.ok ()) := by
  rw [applyDescriptor, registerService, run_bind, run_bind, FallibleRequest.run_settle, done_andThen,
    Admission.approve_eq_ok_iff.2 accepted]
  rfl

theorem run_applyDescriptor_of_refused (refused : ¬Permissible d.executable) :
    ∃ e, (applyDescriptor d).run = done (.error e) := by
  rw [applyDescriptor, registerService, run_bind, run_bind, FallibleRequest.run_settle, done_andThen]
  cases approval : Admission.approve d.serviceName d.executable with
  | ok => exact absurd (Admission.approve_eq_ok_iff.1 approval) refused
  | error e => exact ⟨e, rfl⟩

theorem followed_applyDescriptor :
    t.followed localId now ((applyDescriptor d).run.transcript world past) = t.take d := by
  unfold Tables.take
  split
  · rename_i accepted
    rw [run_applyDescriptor accepted]
    rfl
  · rename_i refused
    obtain ⟨e, run⟩ := run_applyDescriptor_of_refused refused
    rw [run]
    rfl

def Changes (applied : Applied) (d : ServiceDescriptor) : Prop :=
  applied.get? d.serviceName ≠ some d ∧ Permissible d.executable

theorem applyChanged_of_changes (changes : Changes applied d) :
    applyChanged count applied d =
      ask (Step.access (.setCommand d.serviceName d.executable)) fun _ =>
        ask (Step.access (.setAllowList d.serviceName d.allowedRequesters)) fun _ =>
          done (count + 1, applied.insert d.serviceName d) := by
  rw [applyChanged, if_neg changes.1, run_applyDescriptor changes.2]
  rfl

theorem applyChanged_of_not_changes (same : ¬Changes applied d) :
    applyChanged count applied d = done (count, applied) := by
  unfold applyChanged
  split
  · rfl
  · rename_i other
    obtain ⟨e, run⟩ := run_applyDescriptor_of_refused fun accepted => same ⟨other, accepted⟩
    rw [run]
    rfl

/-- Every descriptor last applied stands in both tables. -/
def Cached (applied : Applied) (t : Tables) : Prop :=
  ∀ service d, applied.get? service = some d → d.serviceName = service ∧
    t.commands.get? service = some d.executable ∧ t.allowLists.get? service = some d.allowedRequesters

theorem Cached.take_eq_self (cached : Cached applied t) (known : applied.get? d.serviceName = some d) : t.take d = t := by
  obtain ⟨-, registered, listed⟩ := cached _ _ known
  unfold Tables.take
  split
  · rw [Roster.insert_of_get? registered, Admission.AllowLists.store, Roster.insert_of_get? listed]
  · rfl

theorem Cached.take (cached : Cached applied t) (accepted : Permissible d.executable) :
    Cached (applied.insert d.serviceName d) (t.take d) := by
  intro service other known
  rw [Roster.get?_insert] at known
  rw [Tables.take, if_pos accepted, Admission.AllowLists.store, Roster.get?_insert, Roster.get?_insert]
  split at known
  · rename_i same
    cases known
    exact ⟨same.symm, if_pos same, if_pos same⟩
  · rename_i ne
    obtain ⟨name, registered, listed⟩ := cached _ _ known
    exact ⟨name, (if_neg ne).trans registered, (if_neg ne).trans listed⟩

theorem Cached.take_eq_self_of_not_changes (cached : Cached applied t) (same : ¬Changes applied d) : t.take d = t := by
  by_cases known : applied.get? d.serviceName = some d
  · exact cached.take_eq_self known
  · exact if_neg fun accepted => same ⟨known, accepted⟩

theorem Cached.applyChanged (cached : Cached applied t) (count : Nat) (d : ServiceDescriptor) :
    Cached ((applyChanged count applied d).result world past).2 (t.take d) := by
  by_cases changes : Changes applied d
  · rw [applyChanged_of_changes changes]
    exact cached.take changes.2
  · rw [applyChanged_of_not_changes changes, cached.take_eq_self_of_not_changes changes]
    exact cached

theorem Cached.followed_applyChanged (cached : Cached applied t) (count : Nat) (d : ServiceDescriptor) :
    t.followed localId now ((Device.applyChanged count applied d).transcript world past) = t.take d := by
  by_cases changes : Changes applied d
  · rw [applyChanged_of_changes changes, Tables.take, if_pos changes.2]
    rfl
  · rw [applyChanged_of_not_changes changes, cached.take_eq_self_of_not_changes changes]
    rfl

/-! ## Scans -/

def applyFrom (count : Nat) (applied : Applied) (ds : List ServiceDescriptor) : Request (Nat × Applied) :=
  ds.foldlM (fun s d => applyChanged s.1 s.2 d) (count, applied)

theorem applyFrom_cons (count : Nat) (applied : Applied) (d : ServiceDescriptor) (ds : List ServiceDescriptor) :
    applyFrom count applied (d :: ds) =
      (applyChanged count applied d).andThen fun s => applyFrom s.1 s.2 ds := rfl

theorem reload_ok (applied : Applied) (ds : List ServiceDescriptor) :
    reload applied (.ok ds) = (applyFrom 0 applied ds).andThen fun s => done (.ok s.1, s.2) := rfl

theorem reloadFrom_cons (applied : Applied) (scan : Scan) (scans : List Scan) :
    reloadFrom applied (scan :: scans) = (reload applied scan).andThen fun s => reloadFrom s.2 scans := rfl

theorem found_append (scans more : List Scan) : found (scans ++ more) = found scans ++ found more :=
  List.flatMap_append

theorem found_cons (scan : Scan) (scans : List Scan) : found (scan :: scans) = found [scan] ++ found scans :=
  found_append [scan] scans

theorem Cached.applyFrom (cached : Cached applied t) (count : Nat) (ds : List ServiceDescriptor) :
    Cached ((applyFrom count applied ds).result world past).2 (ds.foldl Tables.take t) := by
  induction ds generalizing applied count t past with
  | nil => exact cached
  | cons d ds ih =>
      rw [applyFrom_cons, result_andThen]
      exact ih (cached.applyChanged count d) _

theorem Cached.followed_applyFrom (cached : Cached applied t) (count : Nat) (ds : List ServiceDescriptor) :
    t.followed localId now ((Device.applyFrom count applied ds).transcript world past) = ds.foldl Tables.take t := by
  induction ds generalizing applied count t past with
  | nil => rfl
  | cons d ds ih =>
      rw [applyFrom_cons, transcript_andThen, Tables.followed_append, cached.followed_applyChanged]
      exact ih (cached.applyChanged count d) _

theorem Cached.reload (cached : Cached applied t) (scan : Scan) :
    Cached ((reload applied scan).result world past).2 ((found [scan]).foldl Tables.take t) := by
  cases scan with
  | error e => exact cached
  | ok ds =>
      rw [reload_ok, result_andThen, result_done]
      simpa [found] using cached.applyFrom 0 ds

theorem Cached.followed_reload (cached : Cached applied t) (scan : Scan) :
    t.followed localId now ((Device.reload applied scan).transcript world past) =
      (found [scan]).foldl Tables.take t := by
  cases scan with
  | error e => rfl
  | ok ds =>
      rw [reload_ok, transcript_andThen, transcript_done, List.append_nil, cached.followed_applyFrom]
      simp [found]

theorem Cached.followed_reloadFrom (cached : Cached applied t) (scans : List Scan) :
    t.followed localId now ((reloadFrom applied scans).transcript world past) =
      (found scans).foldl Tables.take t := by
  induction scans generalizing applied t past with
  | nil => rfl
  | cons scan scans ih =>
      rw [reloadFrom_cons, transcript_andThen, Tables.followed_append, cached.followed_reload, found_cons scan scans,
        List.foldl_append]
      exact ih (cached.reload scan)

theorem followed_reloads (t : Tables) (scans : List Scan) :
    t.followed localId now ((reloads scans).transcript world past) = (found scans).foldl Tables.take t := by
  have cached : Cached .empty t := fun _ _ known => by cases known
  exact cached.followed_reloadFrom scans

theorem followed_applyAll (t : Tables) (ds : List ServiceDescriptor) :
    t.followed localId now ((applyAll ds).transcript world past) = ds.foldl Tables.take t := by
  induction ds generalizing t past with
  | nil => rfl
  | cons d ds ih =>
      have step : applyAll (d :: ds) = (applyDescriptor d).run.andThen fun _ => applyAll ds := rfl
      rw [step, transcript_andThen, Tables.followed_append, followed_applyDescriptor, ih]
      rfl

theorem followed_reloadsUncached (t : Tables) (scans : List Scan) :
    t.followed localId now ((reloadsUncached scans).transcript world past) = (found scans).foldl Tables.take t := by
  induction scans generalizing t past with
  | nil => rfl
  | cons scan scans ih =>
      cases scan with
      | error e => exact ih t
      | ok ds =>
          have step : reloadsUncached (.ok ds :: scans) = (applyAll ds).andThen fun _ => reloadsUncached scans := rfl
          have split : found (.ok ds :: scans) = ds ++ found scans := rfl
          rw [step, transcript_andThen, Tables.followed_append, followed_applyAll, ih, split, List.foldl_append]

/-! ## What stands at the end -/

def lastAccepted (service : String) (ds : List ServiceDescriptor) : Option ServiceDescriptor :=
  (ds.filter fun d => d.serviceName = service ∧ Permissible d.executable).getLast?

theorem lastAccepted_append (service : String) (ds more : List ServiceDescriptor) :
    lastAccepted service (ds ++ more) = (lastAccepted service more).or (lastAccepted service ds) := by
  simp [lastAccepted, List.getLast?_append]

theorem lastAccepted_cons (service : String) (d : ServiceDescriptor) (ds : List ServiceDescriptor) :
    lastAccepted service (d :: ds) = (lastAccepted service ds).or (lastAccepted service [d]) :=
  lastAccepted_append service [d] ds

theorem lastAccepted_singleton (service : String) (d : ServiceDescriptor) :
    lastAccepted service [d] = if d.serviceName = service ∧ Permissible d.executable then some d else none := by
  unfold lastAccepted
  split <;> simp [*]

theorem lastAccepted_found_append {scans more : List Scan} (absent : ∀ d ∈ found more, d.serviceName ≠ service) :
    lastAccepted service (found (scans ++ more)) = lastAccepted service (found scans) := by
  have silent : lastAccepted service (found more) = none := by
    rw [lastAccepted, List.getLast?_eq_none_iff, List.filter_eq_nil_iff]
    exact fun d member named => absent d member (of_decide_eq_true named).1
  rw [found_append, lastAccepted_append, silent, Option.none_or]

theorem get?_take (t : Tables) (d : ServiceDescriptor) (service : String) :
    (t.take d).commands.get? service =
        ((lastAccepted service [d]).map (·.executable)).or (t.commands.get? service) ∧
      (t.take d).allowLists.get? service =
        ((lastAccepted service [d]).map (·.allowedRequesters)).or (t.allowLists.get? service) := by
  rw [lastAccepted_singleton]
  by_cases accepted : Permissible d.executable
  · rw [Tables.take, if_pos accepted, Admission.AllowLists.store, Roster.get?_insert, Roster.get?_insert]
    by_cases same : d.serviceName = service <;> simp [same, accepted, eq_comm (a := service)]
  · simp [Tables.take, accepted]

theorem get?_foldl_take (t : Tables) (ds : List ServiceDescriptor) (service : String) :
    (ds.foldl Tables.take t).commands.get? service =
        ((lastAccepted service ds).map (·.executable)).or (t.commands.get? service) ∧
      (ds.foldl Tables.take t).allowLists.get? service =
        ((lastAccepted service ds).map (·.allowedRequesters)).or (t.allowLists.get? service) := by
  induction ds generalizing t with
  | nil => exact ⟨rfl, rfl⟩
  | cons d ds ih =>
      obtain ⟨commands, allowLists⟩ := ih (t.take d)
      obtain ⟨registered, listed⟩ := get?_take t d service
      rw [List.foldl_cons, commands, allowLists, registered, listed, lastAccepted_cons service d ds, Option.map_or,
        Option.map_or, Option.or_assoc, Option.or_assoc]
      exact ⟨rfl, rfl⟩

theorem get?_applyChanged (count : Nat) (applied : Applied) (d : ServiceDescriptor) (service : String) :
    ((applyChanged count applied d).result world past).2.get? service =
      (lastAccepted service [d]).or (applied.get? service) := by
  rw [lastAccepted_singleton]
  by_cases changes : Changes applied d
  · rw [applyChanged_of_changes changes]
    refine (Roster.get?_insert ..).trans ?_
    by_cases same : d.serviceName = service <;> simp [same, changes.2, eq_comm (a := service)]
  · rw [applyChanged_of_not_changes changes]
    by_cases accepted : d.serviceName = service ∧ Permissible d.executable
    · have known : applied.get? d.serviceName = some d :=
        Decidable.byContradiction fun other => changes ⟨other, accepted.2⟩
      rw [if_pos accepted, ← accepted.1]
      exact known
    · rw [if_neg accepted]
      rfl

theorem get?_applyFrom (count : Nat) (applied : Applied) (ds : List ServiceDescriptor) (service : String) :
    ((applyFrom count applied ds).result world past).2.get? service =
      (lastAccepted service ds).or (applied.get? service) := by
  induction ds generalizing count applied past with
  | nil => rfl
  | cons d ds ih =>
      rw [applyFrom_cons, result_andThen, ih, get?_applyChanged, lastAccepted_cons service d ds, Option.or_assoc]

theorem get?_reload (applied : Applied) (scan : Scan) (service : String) :
    ((reload applied scan).result world past).2.get? service =
      (lastAccepted service (found [scan])).or (applied.get? service) := by
  cases scan with
  | error e => rfl
  | ok ds =>
      rw [reload_ok, result_andThen, result_done]
      simpa [found] using get?_applyFrom 0 applied ds service

theorem get?_reloadFrom (applied : Applied) (scans : List Scan) (service : String) :
    ((reloadFrom applied scans).result world past).get? service =
      (lastAccepted service (found scans)).or (applied.get? service) := by
  induction scans generalizing applied past with
  | nil => rfl
  | cons scan scans ih =>
      rw [reloadFrom_cons, result_andThen, ih, get?_reload, found_cons scan scans, lastAccepted_append, Option.or_assoc]

/-! ## How many descriptors are applied -/

/-- How many descriptors were applied: each that is stores one allow-list, and nothing else does. -/
def applications (log : List (Asked interface)) : Nat :=
  log.countP fun asked =>
    match asked.step with
    | .access (.setAllowList ..) => true
    | _ => false

theorem applications_append (log log' : List (Asked interface)) :
    applications (log ++ log') = applications log + applications log' := List.countP_append

theorem count_applyFrom (count : Nat) (applied : Applied) (ds : List ServiceDescriptor) :
    ((applyFrom count applied ds).result world past).1 =
      count + applications ((applyFrom count applied ds).transcript world past) := by
  induction ds generalizing count applied past with
  | nil => rfl
  | cons d ds ih =>
      have counted : ((applyChanged count applied d).result world past).1 =
          count + applications ((applyChanged count applied d).transcript world past) := by
        by_cases changes : Changes applied d
        · rw [applyChanged_of_changes changes]
          rfl
        · rw [applyChanged_of_not_changes changes]
          rfl
      rw [applyFrom_cons, result_andThen, transcript_andThen, applications_append, ← Nat.add_assoc, ← counted]
      exact ih _ _

theorem applications_applyDescriptor (world : Surroundings interface) (past : List (Asked interface))
    (d : ServiceDescriptor) :
    ((applyDescriptor d).run.result world past = .ok () ∧
        applications ((applyDescriptor d).run.transcript world past) = 1) ∨
      ∃ e, (applyDescriptor d).run.result world past = .error e ∧
        applications ((applyDescriptor d).run.transcript world past) = 0 := by
  by_cases accepted : Permissible d.executable
  · rw [run_applyDescriptor accepted]
    exact .inl ⟨rfl, rfl⟩
  · obtain ⟨e, run⟩ := run_applyDescriptor_of_refused accepted
    rw [run]
    exact .inr ⟨e, rfl, rfl⟩

/-! ## The result -/

theorem applyFrom_filter (count : Nat) (applied : Applied) (ds : List ServiceDescriptor) :
    applyFrom count applied ds = applyFrom count applied (ds.filter fun d => Permissible d.executable) := by
  induction ds generalizing count applied with
  | nil => rfl
  | cons d ds ih =>
      by_cases accepted : Permissible d.executable
      · rw [List.filter_cons_of_pos (by simpa using accepted), applyFrom_cons, applyFrom_cons]
        exact congrArg _ (funext fun s => ih s.1 s.2)
      · rw [List.filter_cons_of_neg (by simpa using accepted), applyFrom_cons,
          applyChanged_of_not_changes fun changes => accepted changes.2]
        exact ih count applied

theorem applyFrom_of_known (count : Nat) {applied : Applied} {ds : List ServiceDescriptor}
    (known : ∀ d ∈ ds, Permissible d.executable → applied.get? d.serviceName = some d) :
    applyFrom count applied ds = done (count, applied) := by
  induction ds with
  | nil => rfl
  | cons d ds ih =>
      obtain ⟨this, others⟩ := List.forall_mem_cons.1 known
      rw [applyFrom_cons, applyChanged_of_not_changes fun changes => changes.1 (this changes.2)]
      exact ih others

/-- What holds of a reloader that was just built, over any scans, if nobody else takes in services. -/
structure CacheInvisible (localId : String) (now : Moment) (world : Surroundings interface)
    (past : List (Asked interface)) (t : Tables) (scans : List Scan) : Prop where
  same : t.followed localId now ((reloads scans).transcript world past) =
    t.followed localId now ((reloadsUncached scans).transcript world past)
  commands : ∀ service, (t.followed localId now ((reloads scans).transcript world past)).commands.get? service =
    ((lastAccepted service (found scans)).map (·.executable)).or (t.commands.get? service)
  allowLists : ∀ service, (t.followed localId now ((reloads scans).transcript world past)).allowLists.get? service =
    ((lastAccepted service (found scans)).map (·.allowedRequesters)).or (t.allowLists.get? service)
  cache : ∀ service, ((reloads scans).result world past).get? service = lastAccepted service (found scans)
  failed : ∀ applied e, reload applied (.error e) = done (.error e, applied)
  refused : ∀ applied ds, reload applied (.ok ds) = reload applied (.ok (ds.filter fun d => Permissible d.executable))
  skipped : ∀ applied ds, (∀ d ∈ ds, Permissible d.executable → applied.get? d.serviceName = some d) →
    reload applied (.ok ds) = done (.ok 0, applied)
  kept : ∀ more service, (∀ d ∈ found more, d.serviceName ≠ service) →
    (t.followed localId now ((reloads (scans ++ more)).transcript world past)).commands.get? service =
        (t.followed localId now ((reloads scans).transcript world past)).commands.get? service ∧
      (t.followed localId now ((reloads (scans ++ more)).transcript world past)).allowLists.get? service =
        (t.followed localId now ((reloads scans).transcript world past)).allowLists.get? service
  application : ∀ d, ((applyDescriptor d).run.result world past = .ok () ∧
      applications ((applyDescriptor d).run.transcript world past) = 1) ∨
    ∃ e, (applyDescriptor d).run.result world past = .error e ∧
      applications ((applyDescriptor d).run.transcript world past) = 0
  count : ∀ applied ds, ((reload applied (.ok ds)).result world past).1 =
    .ok (applications ((reload applied (.ok ds)).transcript world past))

theorem cacheInvisible (localId : String) (now : Moment) (world : Surroundings interface)
    (past : List (Asked interface)) (t : Tables) (scans : List Scan) : CacheInvisible localId now world past t scans where
  same := by rw [followed_reloads, followed_reloadsUncached]
  commands service := by
    rw [followed_reloads]
    exact (get?_foldl_take t _ service).1
  allowLists service := by
    rw [followed_reloads]
    exact (get?_foldl_take t _ service).2
  cache service := (get?_reloadFrom .empty scans service).trans Option.or_none
  failed _ _ := rfl
  refused applied ds := by rw [reload_ok, reload_ok, applyFrom_filter]
  skipped applied ds known := by
    rw [reload_ok, applyFrom_of_known 0 known]
    rfl
  kept more service absent := by
    obtain ⟨commands, allowLists⟩ := get?_foldl_take t (found (scans ++ more)) service
    obtain ⟨commands', allowLists'⟩ := get?_foldl_take t (found scans) service
    rw [followed_reloads, followed_reloads, commands, commands', allowLists, allowLists',
      lastAccepted_found_append absent]
    exact ⟨rfl, rfl⟩
  application := applications_applyDescriptor world past
  count applied ds := by
    rw [reload_ok, result_andThen, result_done, transcript_andThen, transcript_done, List.append_nil]
    exact congrArg Except.ok ((count_applyFrom 0 applied ds).trans (Nat.zero_add _))

end Device

end Emplace
