import Emplace.Proofs.Device.Writing

/-!
# Who is newly listed gets what is newly registered

Executables are written before allow-lists and read after them. Among one writer and any readers, whoever passes the
allow-list of one descriptor therefore resolves the executable of that descriptor or of a later one, and never one that
was replaced before (`Run.resolved_in_order`).
-/

namespace Emplace.Device

open Procedure Admission

variable {profile : Profile} {w z : Traffic} {before after : List (Traffic × Event)} {writer ticket : Nat}
  {service : String} {ds : List ServiceDescriptor} {tables : Tables} {now : Moment} {registered : Option String}

def Task.caller? (profile : Profile) : Task → Option (String × String)
  | .place service requester => some (service, requester)
  | .invoke request => some (request.serviceName, request.requester)
  | .executeRemote payload =>
    match readExecution profile.cipher payload with
    | .ok x => some (x.serviceName, x.requester)
    | .error _ => none
  | _ => none

def Checked (caller? : Option (String × String)) (past : List (Asked interface)) : Step → Prop
  | .access (.command service) => ∃ requester allowed, caller? = some (service, requester) ∧
      past = [⟨Step.access (.allowList service), some allowed⟩] ∧ requester ∈ allowed
  | _ => True

def Step.Unresolving : Step → Prop
  | .access (.command _) => False
  | _ => True

theorem Checked.of_unresolving {caller? : Option (String × String)} (past : List (Asked interface)) (s : Step)
    (unresolving : s.Unresolving) : Checked caller? past s := by
  unfold Checked
  split
  · exact unresolving.elim
  · trivial

theorem Step.Weighs.unresolving {s : Step} (weighs : s.Weighs) : s.Unresolving := by
  unfold Step.Unresolving
  split
  · exact weighs.elim
  · trivial

section

variable {α β : Type} {requester : String} {allowed : List String}

theorem checkRequester_checked {f : Unit → FallibleRequest α}
    (rest : ∀ allowed, requester ∈ allowed → (f ()).run.Keeps (Checked (some (service, requester)))
      [⟨Step.access (.allowList service), some allowed⟩]) :
    (checkRequester service requester >>= f).run.Keeps (Checked (some (service, requester))) [] := by
  simp only [run_bind, run_checkRequester, ask_andThen, done_andThen, keeps_ask_iff]
  refine ⟨trivial, fun found => ?_⟩
  cases permission : permitted service requester found with
  | error e => exact keeps_done _
  | ok =>
      obtain ⟨allowed, rfl, listed⟩ := permitted_eq_ok_iff.1 permission
      exact rest allowed listed

theorem command_checked {x : FallibleRequest α} {outcome : Option String → Except Failure α}
    (reads : x.run = ask (Step.access (.command service)) fun found => done (outcome found)) {f : α → FallibleRequest β}
    (listed : requester ∈ allowed) (rest : ∀ a, (f a).run.Only Step.Unresolving) :
    (x >>= f).run.Keeps (Checked (some (service, requester))) [⟨Step.access (.allowList service), some allowed⟩] := by
  rw [run_bind, reads, ask_andThen, keeps_ask_iff]
  refine ⟨⟨requester, allowed, rfl, rfl, listed⟩, fun found => ?_⟩
  rw [done_andThen]
  cases outcome found with
  | error e => exact keeps_done _
  | ok a => exact .of_only (rest a) Checked.of_unresolving

end

theorem place_checked (profile : Profile) (service requester : String) :
    (place profile service requester).run.Keeps (Checked (some (service, requester))) [] := by
  refine checkRequester_checked fun allowed listed => command_checked (run_resolve service) listed fun _ => ?_
  exact (chooseTarget_weighs profile service).mono fun _ weighs => weighs.unresolving

theorem invoke_checked (profile : Profile) (request : InvokeRequest) :
    (invoke profile request).run.Keeps (Checked (some (request.serviceName, request.requester))) [] := by
  simp only [invoke, admitted, bind_assoc, pure_bind]
  refine checkRequester_checked fun allowed listed => ?_
  refine command_checked (run_resolve request.serviceName) listed fun executable => ?_
  refine .bind trivial fun _ => ?_
  refine .bind ((chooseTarget_weighs ..).mono fun _ weighs => weighs.unresolving) fun decision => ?_
  refine .bind ?_ fun output => trivial
  rw [run_dispatch]
  cases decision.isLocal <;> exact ⟨trivial, fun _ => trivial⟩

theorem perform_checked (profile : Profile) (x : RemoteExecution) :
    (perform profile x).run.Keeps (Checked (some (x.serviceName, x.requester))) [] := by
  refine checkRequester_checked fun allowed listed => ?_
  refine command_checked (run_verify x.serviceName x.executable) listed fun _ => ?_
  refine .bind trivial fun _ => .bind ⟨trivial, fun _ => trivial⟩ fun outcome => .bind trivial fun output => ?_
  exact .bind ⟨trivial, fun _ => trivial⟩ fun nonce => trivial

theorem Task.Reads.request_checked {task : Task} (reads : task.Reads) (profile : Profile) :
    (task.request profile).Keeps (Checked (task.caller? profile)) [] := by
  have unresolving {p : Request Unit} (only : p.Only Step.Unresolving) : p.Keeps (Checked (task.caller? profile)) [] :=
    .of_only only Checked.of_unresolving
  cases task with
  | register | store | apply | reload => exact reads.elim
  | observe | expire => exact unresolving ⟨trivial, fun _ => trivial⟩
  | close =>
      refine unresolving ⟨trivial, fun wasClosed => ?_⟩
      cases wasClosed with
      | true => trivial
      | false => exact ⟨trivial, fun _ => trivial⟩
  | place service requester => exact (place_checked profile service requester).andThen fun _ _ => trivial
  | invoke request => exact (invoke_checked profile request).andThen fun _ _ => trivial
  | executeRemote payload =>
      refine Keeps.andThen ?_ fun _ _ => trivial
      rw [run_executeRemote, Task.caller?]
      cases readExecution profile.cipher payload with
      | error e => exact keeps_done _
      | ok x => exact perform_checked profile x

theorem not_mem_writes (service : String) (ds : List ServiceDescriptor) : Access.command service ∉ writes ds := by
  induction ds with
  | nil => simp [writes]
  | cons d ds ih =>
      rw [writes]
      split
      · simpa using ih
      · exact ih

theorem Run.ne_writer (run : Run profile (.written tables writer ds) before w) (reads : OnlyReaders before)
    {next : Option String → Request Unit} (turn : w.pending ticket = some (ask (Step.access (.command service)) next)) :
    ticket ≠ writer := by
  rintro rfl
  obtain ⟨front, rest, split, pending, -⟩ := run.script (Traffic.written_soleWriter tables ticket ds)
    (Traffic.written_pending tables ticket ds) reads service
  cases rest with
  | nil => cases turn.symm.trans pending
  | cons a rest =>
      cases turn.symm.trans pending
      apply not_mem_writes service ds
      simp [split]

theorem Run.passed
    (run : Run profile (.written tables writer ds)
      (before ++ (w, .acted ticket now ⟨Step.access (.command service), registered⟩) :: after) z)
    (reads : OnlyReaders before) :
    ∃ early v earlier allowed requester between, before =
        early ++ (v, .acted ticket earlier ⟨Step.access (.allowList service), some allowed⟩) :: between ∧
      requester ∈ allowed ∧
      ∃ x task, (x, .arrived ticket task) ∈ early ∧ Task.caller? profile task = some (service, requester) := by
  obtain ⟨y, first, later⟩ := run.split
  cases later with
  | next event _ =>
      cases event with
      | accessed now turn =>
          have absent : (Traffic.written tables writer ds).pending ticket = none :=
            Traffic.put_of_ne (first.ne_writer reads turn) _ _
          obtain ⟨front, v, task, life, x, rfl, began, lifetime⟩ := first.arrived absent turn
          have reader : task.Reads := reads _ (List.mem_append_right front List.mem_cons_self) ticket task rfl
          obtain ⟨q, still, keeps⟩ := lifetime.keeps began (reader.request_checked profile)
          obtain rfl := Option.some.inj (still.symm.trans turn)
          -- All that the request asked before is the allow-list.
          obtain ⟨requester, allowed, caller, own, listed⟩ := keeps.1
          obtain ⟨pre, ⟨u, e⟩, rest, rfl, -, reading, -⟩ := List.filterMap_eq_cons_iff.1 own
          obtain ⟨earlier, rfl⟩ := Event.eq_of_of? reading
          refine ⟨front ++ (v, .arrived ticket task) :: pre, u, earlier, allowed, requester, rest, ?_, listed, v, task,
            ?_, caller⟩
          · simp
          · simp

theorem listed_beyond {old new : List ServiceDescriptor} {requester : String} {allowed : List String}
    (split : accepted service ds = old ++ new) (unlisted : ∀ d ∈ old, requester ∉ d.allowedRequesters)
    (initial : ∀ list, tables.allowLists.get? service = some list → requester ∉ list)
    {k : Nat} (found : listBy tables service ds k = some allowed) (listed : requester ∈ allowed) : old.length < k := by
  cases k with
  | zero => exact absurd listed (initial allowed found)
  | succ k =>
      by_contra before
      have within : k < old.length := by omega
      rw [listBy, split, List.getElem?_append_left within, List.getElem?_eq_getElem within] at found
      obtain rfl := Option.some.inj found
      exact unlisted _ (List.getElem_mem within) listed

/-- Among one writer and any readers, whoever resolves a service passed the allow-list that the `k`-th accepted
descriptor wrote, and gets the executable that the `j`-th wrote, with `k ≤ j`. A requester whom nothing listed up to some
descriptor gets the executable of a descriptor behind it. -/
theorem Run.resolved_in_order
    (run : Run profile (.written tables writer ds)
      (before ++ (w, .acted ticket now ⟨Step.access (.command service), registered⟩) :: after) z)
    (reads : OnlyReaders before) :
    ∃ early v earlier allowed requester between k i l j, before =
        early ++ (v, .acted ticket earlier ⟨Step.access (.allowList service), some allowed⟩) :: between ∧
      requester ∈ allowed ∧
      (∃ x task, (x, .arrived ticket task) ∈ early ∧ Task.caller? profile task = some (service, requester)) ∧
      Progress service ds early k i ∧ listBy tables service ds k = some allowed ∧
      Progress service ds before l j ∧ executableBy tables service ds j = registered ∧ k ≤ j ∧
      ∀ old new, accepted service ds = old ++ new → (∀ d ∈ old, requester ∉ d.allowedRequesters) →
        (∀ list, tables.allowLists.get? service = some list → requester ∉ list) →
        ∃ d ∈ new, registered = some d.executable := by
  obtain ⟨early, v, earlier, allowed, requester, between, rfl, listed, arrival⟩ := run.passed reads
  have readsEarly : OnlyReaders early := fun entry member => reads entry (List.mem_append_left _ member)
  have upTo := run.before
  have upToEarly := upTo.before
  obtain ⟨k, i, progress⟩ := upToEarly.progress readsEarly service
  obtain ⟨l, j, later⟩ := upTo.progress reads service
  have found : some allowed = listBy tables service ds k := upTo.access_answer.trans (progress.allowList upToEarly)
  have resolved : registered = executableBy tables service ds j := run.access_answer.trans (later.command upTo)
  have ordered : k ≤ j := Nat.le_trans progress.behind (progress.mono later)
  refine ⟨early, v, earlier, allowed, requester, between, k, i, l, j, rfl, listed, arrival, progress, found.symm, later,
    resolved.symm, ordered, fun old new split unlisted before => ?_⟩
  have beyond : old.length < k := listed_beyond split unlisted before found.symm listed
  cases j with
  | zero => omega
  | succ j =>
      have within : j < (accepted service ds).length := later.within
      refine ⟨(accepted service ds)[j], ?_, ?_⟩
      · simp only [split]
        rw [List.getElem_append_right (by omega)]
        exact List.getElem_mem _
      · rw [resolved, executableBy, List.getElem?_eq_getElem within]
        rfl

theorem Run.resolved_in_order_replaced :
    ∃ before w now after z,
      Run ⟨"pi", "pi:80", .passThrough, ⟨0⟩, []⟩
        (.written .empty 0 [⟨"weather", "old", ["bob"]⟩, ⟨"weather", "new", ["amy"]⟩])
        (before ++ (w, .acted 1 now ⟨Step.access (.command "weather"), some "new"⟩) :: after) z ∧
      OnlyReaders before ∧ ∃ early v earlier allowed requester between k i l j, before =
          early ++ (v, .acted 1 earlier ⟨Step.access (.allowList "weather"), some allowed⟩) :: between ∧
        requester ∈ allowed ∧
        Progress "weather" [⟨"weather", "old", ["bob"]⟩, ⟨"weather", "new", ["amy"]⟩] early k i ∧
        Progress "weather" [⟨"weather", "old", ["bob"]⟩, ⟨"weather", "new", ["amy"]⟩] before l j ∧
        executableBy .empty "weather" [⟨"weather", "old", ["bob"]⟩, ⟨"weather", "new", ["amy"]⟩] j = some "new" ∧
        k ≤ j := by
  let profile : Profile := ⟨"pi", "pi:80", .passThrough, ⟨0⟩, []⟩
  let ds : List ServiceDescriptor := [⟨"weather", "old", ["bob"]⟩, ⟨"weather", "new", ["amy"]⟩]
  have old : approve "weather" "old" = .ok () := rfl
  have new : approve "weather" "new" = .ok () := rfl
  have all : writes ds = [.setCommand "weather" "old", .setAllowList "weather" ["bob"], .setCommand "weather" "new",
      .setAllowList "weather" ["amy"]] := by
    simp [ds, writes, approve_eq_ok_iff.1 old, approve_eq_ok_iff.1 new]
  have pending : (Traffic.written .empty 0 ds).pending 0 = some (Device.script [.setCommand "weather" "old",
      .setAllowList "weather" ["bob"], .setCommand "weather" "new", .setAllowList "weather" ["amy"]]) := by
    rw [← all]
    exact Traffic.written_pending .empty 0 ds
  obtain ⟨before, w, z, run, reads⟩ : ∃ before w z, Run profile (.written .empty 0 ds)
      (before ++ (w, .acted 1 ⟨0, 0⟩ ⟨Step.access (.command "weather"), some "new"⟩) :: []) z ∧ OnlyReaders before := by
    refine ⟨[?_, ?_, ?_, ?_, ?_], ?_, ?_, ?run, ?reads⟩
    case run =>
      exact .next (@Next.accessed profile _ 0 (.setCommand "weather" "old") _ ⟨0, 0⟩ pending) <|
        .next (@Next.accessed profile _ 0 (.setAllowList "weather" ["bob"]) _ ⟨0, 0⟩ rfl) <|
        .next (@Next.arrived profile _ 1 (.place "weather" "bob") rfl) <|
        .next (@Next.accessed profile _ 1 (.allowList "weather") _ ⟨0, 0⟩ rfl) <|
        .next (@Next.accessed profile _ 0 (.setCommand "weather" "new") _ ⟨0, 0⟩ rfl) <|
        .next (@Next.accessed profile _ 1 (.command "weather") _ ⟨0, 0⟩ rfl) <| .rest _
    case reads => exact .acted <| .acted <| .arrived trivial <| .acted <| .acted .nil
  obtain ⟨early, v, earlier, allowed, requester, between, k, i, l, j, split, listed, -, progress, -, later, resolved,
    ordered, -⟩ := Run.resolved_in_order run reads
  exact ⟨before, w, _, _, z, run, reads, early, v, earlier, allowed, requester, between, k, i, l, j, split, listed,
    progress, later, resolved, ordered⟩

end Emplace.Device
