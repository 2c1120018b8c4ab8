import Emplace.Proofs.Device.Admitted
import Emplace.Proofs.Device.Reloading

namespace Emplace.Device

open Procedure Admission

variable {profile : Profile} {u v w : Traffic} {e : Event} {past before after : List (Traffic × Event)}
  {writer ticket : Nat} {service : String} {ds : List ServiceDescriptor} {accesses : List Access}

/-! ## What stands for a service -/

def listings (service : String) (events : List (Traffic × Event)) : List (List String) :=
  events.filterMap fun entry => entry.2.stored? service

def registrations (service : String) (events : List (Traffic × Event)) : List String :=
  events.filterMap fun entry => entry.2.registered? service

theorem getLast?_filterMap_cons {α β : Type} (write : α → Option β) (first : α) (rest : List α) (initial : Option β) :
    ((first :: rest).filterMap write).getLast?.or initial = (rest.filterMap write).getLast?.or ((write first).or initial) := by
  rw [List.filterMap_cons]
  cases write first with
  | none => rfl
  | some value =>
      rw [List.getLast?_cons]
      cases (rest.filterMap write).getLast? <;> rfl

theorem Run.allowList_eq (run : Run profile u past w) (service : String) :
    w.tables.allowLists.get? service = (listings service past).getLast?.or (u.tables.allowLists.get? service) := by
  induction run with
  | rest w => rfl
  | next first run ih => rw [ih, first.allowList, listings, listings, getLast?_filterMap_cons]

theorem Run.command_eq (run : Run profile u past w) (service : String) :
    w.tables.commands.get? service = (registrations service past).getLast?.or (u.tables.commands.get? service) := by
  induction run with
  | rest w => rfl
  | next first run ih => rw [ih, first.command, registrations, registrations, getLast?_filterMap_cons]

/-! ## A writer -/

def writes : List ServiceDescriptor → List Access
  | [] => []
  | d :: ds =>
    if Permissible d.executable then
      .setCommand d.serviceName d.executable :: .setAllowList d.serviceName d.allowedRequesters :: writes ds
    else writes ds

def script : List Access → Request Unit
  | [] => done ()
  | a :: accesses => ask (Step.access a) fun _ => script accesses

theorem steps_applyAll (ds : List ServiceDescriptor) : steps (applyAll ds) = script (writes ds) := by
  induction ds with
  | nil => rfl
  | cons d ds ih =>
      have split : steps (applyAll (d :: ds)) = (applyDescriptor d).run.andThen fun _ => steps (applyAll ds) :=
        andThen_assoc ..
      rw [split, ih, writes]
      by_cases accepted : Permissible d.executable
      · rw [run_applyDescriptor accepted, if_pos accepted]
        rfl
      · obtain ⟨e, refused⟩ := run_applyDescriptor_of_refused accepted
        rw [refused, if_neg accepted]
        rfl

def Traffic.written (tables : Tables) (writer : Nat) (ds : List ServiceDescriptor) : Traffic :=
  ⟨tables, Traffic.put ⟨tables, fun _ => none⟩ writer (steps (applyAll ds))⟩

def Task.Reads : Task → Prop
  | .register .. | .store .. | .apply _ | .reload .. => False
  | _ => True

theorem Task.Reads.request_spares {task : Task} (reads : task.Reads) (profile : Profile) :
    (task.request profile).Only Step.Spares := by
  have unchanging {α : Type} {p : Request α} (only : p.Only Step.Unchanging) : (steps p).Only Step.Spares :=
    (only.mono fun _ unchanging => unchanging.spares).andThen fun _ => trivial
  cases task with
  | register | store | apply | reload => exact reads.elim
  | observe | expire => exact ⟨trivial, fun _ => trivial⟩
  | close =>
      refine ⟨trivial, fun wasClosed => ?_⟩
      cases wasClosed with
      | true => trivial
      | false => exact ⟨trivial, fun _ => trivial⟩
  | place service requester => exact unchanging ((place_looks ..).mono fun _ looks => looks.unchanging)
  | invoke request => exact unchanging (invoke_unchanging profile request)
  | executeRemote payload => exact unchanging (executeRemote_unchanging profile payload)

/-! ## One writer among readers -/

def Traffic.SoleWriter (w : Traffic) (writer : Nat) : Prop :=
  w.Each fun ticket p => ticket ≠ writer → p.Only Step.Spares

def OnlyReaders (events : List (Traffic × Event)) : Prop :=
  ∀ entry ∈ events, ∀ ticket task, entry.2 = .arrived ticket task → task.Reads

theorem OnlyReaders.nil : OnlyReaders [] := fun _ member => absurd member List.not_mem_nil

theorem OnlyReaders.acted {now : Moment} {asked : Asked interface} (reads : OnlyReaders past) :
    OnlyReaders ((w, .acted ticket now asked) :: past) :=
  List.forall_mem_cons.2 ⟨fun _ _ other => Event.noConfusion other, reads⟩

theorem OnlyReaders.arrived {task : Task} (first : task.Reads) (reads : OnlyReaders past) :
    OnlyReaders ((w, .arrived ticket task) :: past) :=
  List.forall_mem_cons.2 ⟨fun _ _ same => (Event.arrived.inj same).2 ▸ first, reads⟩

def Access.listed? (service : String) : Access → Option (List String)
  | .setAllowList name requesters => if service = name then some requesters else none
  | _ => none

def Access.registered? (service : String) : Access → Option String
  | .setCommand name executable => if service = name then some executable else none
  | _ => none

theorem filterMap_singleton {α β : Type} (f : α → Option β) (a : α) : [a].filterMap f = (f a).toList := by
  cases found : f a <;> simp [found]

theorem Next.script (next : Next profile u e v) (sole : u.SoleWriter writer)
    (pending : u.pending writer = some (script accesses))
    (reads : ∀ ticket task, e = .arrived ticket task → task.Reads) (service : String) :
    v.SoleWriter writer ∧ ∃ front rest, accesses = front ++ rest ∧ v.pending writer = some (Device.script rest) ∧
      (e.stored? service).toList = front.filterMap (Access.listed? service) ∧
      (e.registered? service).toList = front.filterMap (Access.registered? service) := by
  cases next with
  | @arrived ticket task fresh =>
      have ne : writer ≠ ticket := by
        rintro rfl
        cases fresh.symm.trans pending
      refine ⟨sole.put _ fun _ => (reads ticket task rfl).request_spares profile, [], accesses, rfl, ?_, rfl, rfl⟩
      exact (u.put_of_ne ne _).trans pending
  | @accessed ticket a next now turn =>
      by_cases own : writer = ticket
      · subst own
        cases accesses with
        | nil => cases turn.symm.trans pending
        | cons b rest =>
            cases turn.symm.trans pending
            refine ⟨sole.put _ fun ne => absurd rfl ne, [a], rest, rfl, u.put_self _ _, ?_, ?_⟩
            · rw [filterMap_singleton]
              cases a <;> rfl
            · rw [filterMap_singleton]
              cases a <;> rfl
      · have spares := sole ticket _ turn (Ne.symm own)
        refine ⟨sole.put _ fun _ => spares.2 _, [], accesses, rfl, (u.put_of_ne own _).trans pending, ?_, ?_⟩
        · cases a <;> first | rfl | exact spares.1.elim
        · cases a <;> first | rfl | exact spares.1.elim
  | @called ticket c next now answer turn =>
      have own : writer ≠ ticket := by
        rintro rfl
        cases accesses <;> cases turn.symm.trans pending
      have spares := sole ticket _ turn (Ne.symm own)
      exact ⟨sole.put _ fun _ => spares.2 _, [], accesses, rfl, (u.put_of_ne own _).trans pending, rfl, rfl⟩

theorem filterMap_cons_eq_append {α β : Type} (f : α → Option β) (first : α) (rest : List α) :
    (first :: rest).filterMap f = (f first).toList ++ rest.filterMap f := by
  rw [← filterMap_singleton, ← List.filterMap_append, List.singleton_append]

theorem Run.script (run : Run profile u past w) (sole : u.SoleWriter writer)
    (pending : u.pending writer = some (script accesses)) (reads : OnlyReaders past) (service : String) :
    ∃ front rest, accesses = front ++ rest ∧ w.pending writer = some (Device.script rest) ∧
      listings service past = front.filterMap (Access.listed? service) ∧
      registrations service past = front.filterMap (Access.registered? service) := by
  induction run generalizing accesses with
  | rest w => exact ⟨[], accesses, rfl, pending, rfl, rfl⟩
  | @next u v w e later first run ih =>
      obtain ⟨this, others⟩ := List.forall_mem_cons.1 reads
      obtain ⟨sole, front, rest, rfl, pending, listed, registered⟩ := first.script sole pending this service
      obtain ⟨more, rest, rfl, still, listings_eq, registrations_eq⟩ := ih sole pending others
      refine ⟨front ++ more, rest, (List.append_assoc ..).symm, still, ?_, ?_⟩
      · rw [listings, filterMap_cons_eq_append, listed, List.filterMap_append, ← listings_eq]
        rfl
      · rw [registrations, filterMap_cons_eq_append, registered, List.filterMap_append, ← registrations_eq]
        rfl

/-! ## How far the writer is -/

def accepted (service : String) (ds : List ServiceDescriptor) : List ServiceDescriptor :=
  ds.filter fun d => d.serviceName = service ∧ Permissible d.executable

/-- After some events, the first `k` accepted descriptors of a service have written its allow-list, and the first `j`
its executable. -/
structure Progress (service : String) (ds : List ServiceDescriptor) (events : List (Traffic × Event)) (k j : Nat) :
    Prop where
  listings : listings service events = ((accepted service ds).take k).map (·.allowedRequesters)
  registrations : registrations service events = ((accepted service ds).take j).map (·.executable)
  behind : k ≤ j
  within : j ≤ (accepted service ds).length

theorem accepted_cons_of_pos {d : ServiceDescriptor} (same : d.serviceName = service)
    (permissible : Permissible d.executable) : accepted service (d :: ds) = d :: accepted service ds :=
  List.filter_cons_of_pos (by simp [same, permissible])

theorem accepted_cons_of_neg {d : ServiceDescriptor} (other : ¬(d.serviceName = service ∧ Permissible d.executable)) :
    accepted service (d :: ds) = accepted service ds :=
  List.filter_cons_of_neg (by simpa using other)

theorem writes_front {front rest : List Access} (split : writes ds = front ++ rest) (service : String) :
    ∃ k j, front.filterMap (Access.listed? service) = ((accepted service ds).take k).map (·.allowedRequesters) ∧
      front.filterMap (Access.registered? service) = ((accepted service ds).take j).map (·.executable) ∧
      k ≤ j ∧ j ≤ (accepted service ds).length := by
  induction ds generalizing front with
  | nil =>
      obtain ⟨rfl, -⟩ := List.append_eq_nil_iff.1 split.symm
      exact ⟨0, 0, rfl, rfl, Nat.le_refl 0, Nat.zero_le _⟩
  | cons d ds ih =>
      by_cases permissible : Permissible d.executable
      · rw [writes, if_pos permissible] at split
        -- The first part ends before, between or behind the two writes of this descriptor.
        rcases front with _ | ⟨command, _ | ⟨allowList, front⟩⟩
        · exact ⟨0, 0, rfl, rfl, Nat.le_refl 0, Nat.zero_le _⟩
        · injection split with this
          subst this
          by_cases same : d.serviceName = service
          · rw [accepted_cons_of_pos same permissible]
            refine ⟨0, 1, rfl, ?_, Nat.zero_le 1, by simp⟩
            simp [Access.registered?, same]
          · refine ⟨0, 0, rfl, ?_, Nat.le_refl 0, Nat.zero_le _⟩
            simp [Access.registered?, Ne.symm same]
        · injection split with this split
          injection split with next split
          subst this next
          obtain ⟨k, j, listed, registered, behind, within⟩ := ih split
          by_cases same : d.serviceName = service
          · rw [accepted_cons_of_pos same permissible]
            refine ⟨k + 1, j + 1, ?_, ?_, Nat.succ_le_succ behind, Nat.succ_le_succ within⟩
            · simp [filterMap_cons_eq_append, Access.listed?, same, listed]
            · simp [filterMap_cons_eq_append, Access.registered?, same, registered]
          · rw [accepted_cons_of_neg fun both => same both.1]
            refine ⟨k, j, ?_, ?_, behind, within⟩
            · simp [filterMap_cons_eq_append, Access.listed?, Ne.symm same, listed]
            · simp [filterMap_cons_eq_append, Access.registered?, Ne.symm same, registered]
      · rw [writes, if_neg permissible] at split
        rw [accepted_cons_of_neg fun both => permissible both.2]
        exact ih split

theorem Traffic.written_soleWriter (tables : Tables) (writer : Nat) (ds : List ServiceDescriptor) :
    (Traffic.written tables writer ds).SoleWriter writer := by
  have idle : Traffic.SoleWriter ⟨tables, fun _ => none⟩ writer := by
    intro ticket p pending
    cases pending
  exact idle.put tables fun ne => absurd rfl ne

theorem Traffic.written_pending (tables : Tables) (writer : Nat) (ds : List ServiceDescriptor) :
    (Traffic.written tables writer ds).pending writer = some (script (writes ds)) := by
  rw [← steps_applyAll]
  exact Traffic.put_self ..

/-! ## What stands while the writer is at work -/

variable {tables : Tables} {k j : Nat}

theorem Run.progress (run : Run profile (.written tables writer ds) past w) (reads : OnlyReaders past)
    (service : String) : ∃ k j, Progress service ds past k j := by
  obtain ⟨front, rest, split, -, listed, registered⟩ := run.script (Traffic.written_soleWriter tables writer ds)
    (Traffic.written_pending tables writer ds) reads service
  obtain ⟨k, j, lists, executables, behind, within⟩ := writes_front split service
  exact ⟨k, j, listed.trans lists, registered.trans executables, behind, within⟩

/-- The allow-list of a service that its `k`-th accepted descriptor wrote; the zeroth is the one that stood before. -/
def listBy (tables : Tables) (service : String) (ds : List ServiceDescriptor) : Nat → Option (List String)
  | 0 => tables.allowLists.get? service
  | k + 1 => ((accepted service ds)[k]?).map (·.allowedRequesters)

def executableBy (tables : Tables) (service : String) (ds : List ServiceDescriptor) : Nat → Option String
  | 0 => tables.commands.get? service
  | j + 1 => ((accepted service ds)[j]?).map (·.executable)

theorem getLast?_map_take {α β : Type} (f : α → β) {list : List α} (within : k < list.length) :
    ((list.take (k + 1)).map f).getLast? = some (f list[k]) := by
  rw [List.getLast?_map, List.take_succ_eq_append_getElem within, List.getLast?_concat]
  rfl

theorem Progress.allowList (progress : Progress service ds past k j)
    (run : Run profile (.written tables writer ds) past w) :
    w.tables.allowLists.get? service = listBy tables service ds k := by
  rw [run.allowList_eq, progress.listings]
  cases k with
  | zero => rfl
  | succ k =>
      have within : k < (accepted service ds).length := Nat.lt_of_lt_of_le progress.behind progress.within
      rw [getLast?_map_take _ within, listBy, List.getElem?_eq_getElem within]
      rfl

theorem Progress.command (progress : Progress service ds past k j)
    (run : Run profile (.written tables writer ds) past w) :
    w.tables.commands.get? service = executableBy tables service ds j := by
  rw [run.command_eq, progress.registrations]
  cases j with
  | zero => rfl
  | succ j =>
      have within : j < (accepted service ds).length := progress.within
      rw [getLast?_map_take _ within, executableBy, List.getElem?_eq_getElem within]
      rfl

theorem Progress.mono {more : List (Traffic × Event)} {k' j' : Nat} (progress : Progress service ds past k j)
    (later : Progress service ds (past ++ more) k' j') : j ≤ j' := by
  have before := congrArg List.length progress.registrations
  have after := congrArg List.length later.registrations
  have within := progress.within
  have within' := later.within
  rw [Device.registrations, List.filterMap_append] at after
  rw [Device.registrations] at before
  simp only [List.length_append, List.length_map, List.length_take] at before after
  omega

end Emplace.Device
