import Emplace.Proofs.Device.Clearance
import Emplace.Proofs.Device.Payloads

/-!
# Nothing runs without admission

In any traffic since the device was built, whatever is run or forwarded was cleared within the lifetime of its own
request: at some moment the allow-list in force contained the requester, and at a later one the service was registered
with exactly the executable that is run (`Run.launch_admitted`). The invariant that carries this is that a request in
flight keeps to `Cleared` from where it stands, with its own events since its arrival as the past (`Run.keeps`).
-/

namespace Emplace.Device

open Procedure Admission

variable {profile : Profile} {u v w : Traffic} {e : Event} {past before after : List (Traffic × Event)}
  {ticket : Nat} {now : Moment} {rule : List (Asked interface) → Step → Prop} {own : List (Asked interface)}
  {asked : Asked interface}

def ownSteps (ticket : Nat) (events : List (Traffic × Event)) : List (Asked interface) :=
  events.filterMap fun entry => entry.2.of? ticket

theorem ownSteps_cons (ticket : Nat) (u : Traffic) (e : Event) (later : List (Traffic × Event)) :
    ownSteps ticket ((u, e) :: later) = (e.of? ticket).toList ++ ownSteps ticket later := by
  cases own : e.of? ticket <;> simp [ownSteps, own]

theorem Next.keeps (next : Next profile u e v) {p : Request Unit} (pending : u.pending ticket = some p)
    (keeps : p.Keeps rule own) : ∃ q, v.pending ticket = some q ∧ q.Keeps rule (own ++ (e.of? ticket).toList) := by
  cases next with
  | @arrived other task fresh =>
      have ne : ticket ≠ other := by
        rintro rfl
        cases fresh.symm.trans pending
      exact ⟨p, (u.put_of_ne ne _).trans pending, by simpa [Event.of?] using keeps⟩
  | @accessed other a rest now turn =>
      by_cases same : ticket = other
      · subst same
        obtain rfl := Option.some.inj (turn.symm.trans pending)
        refine ⟨_, u.put_self _ _, ?_⟩
        simpa [Event.of?] using keeps.2 (u.tables.apply profile.id now a).1
      · exact ⟨p, (u.put_of_ne same _).trans pending, by simpa [Event.of?, Ne.symm same] using keeps⟩
  | @called other c rest now answer turn =>
      by_cases same : ticket = other
      · subst same
        obtain rfl := Option.some.inj (turn.symm.trans pending)
        refine ⟨_, u.put_self _ _, ?_⟩
        simpa [Event.of?] using keeps.2 answer
      · exact ⟨p, (u.put_of_ne same _).trans pending, by simpa [Event.of?, Ne.symm same] using keeps⟩

theorem Run.keeps (run : Run profile u past w) {p : Request Unit} (pending : u.pending ticket = some p)
    (keeps : p.Keeps rule own) : ∃ q, w.pending ticket = some q ∧ q.Keeps rule (own ++ ownSteps ticket past) := by
  induction run generalizing own p with
  | rest w => exact ⟨p, pending, by simpa [ownSteps] using keeps⟩
  | @next u v w e later first run ih =>
      obtain ⟨q, pending, keeps⟩ := first.keeps pending keeps
      rw [ownSteps_cons, ← List.append_assoc]
      exact ih pending keeps

theorem Next.arrival (next : Next profile u e v) (absent : u.pending ticket = none) {p : Request Unit}
    (pending : v.pending ticket = some p) : ∃ task, e = .arrived ticket task ∧ p = Task.request profile task := by
  have untouched {other : Nat} {q r : Request Unit} (turn : u.pending other = some q)
      (there : u.put other r ticket = some p) : False := by
    by_cases same : ticket = other
    · cases absent.symm.trans ((congrArg u.pending same).trans turn)
    · cases absent.symm.trans ((u.put_of_ne same r).symm.trans there)
  cases next with
  | @arrived other task fresh =>
      by_cases same : ticket = other
      · subst same
        exact ⟨task, rfl, Option.some.inj (pending.symm.trans (u.put_self _ _))⟩
      · cases absent.symm.trans ((u.put_of_ne same _).symm.trans pending)
  | accessed _ turn => exact (untouched turn pending).elim
  | called _ _ turn => exact (untouched turn pending).elim

theorem Run.arrived (run : Run profile u past w) (absent : u.pending ticket = none) {p : Request Unit}
    (pending : w.pending ticket = some p) :
    ∃ front v task life x, past = front ++ (v, .arrived ticket task) :: life ∧
      x.pending ticket = some (Task.request profile task) ∧ Run profile x life w := by
  induction run with
  | rest w => cases absent.symm.trans pending
  | @next u v w e later first run ih =>
      -- Either the ticket is still free after the first event, or that event is the arrival.
      cases there : v.pending ticket with
      | none =>
          obtain ⟨front, x, task, life, y, rfl, began, lifetime⟩ := ih there pending
          exact ⟨(u, e) :: front, x, task, life, y, rfl, began, lifetime⟩
      | some q =>
          obtain ⟨task, rfl, rfl⟩ := first.arrival absent there
          exact ⟨[], u, task, later, v, rfl, there, run⟩

/-- A step in the traffic follows whatever rule its request keeps, in view of what was asked since it arrived. -/
theorem Run.follows (run : Run profile .idle (before ++ (v, .acted ticket now asked) :: after) w) :
    ∃ front u task life, before = front ++ (u, .arrived ticket task) :: life ∧
      ∀ rule, (task.request profile).Keeps rule [] → rule (ownSteps ticket life) asked.step := by
  have turn : ∃ next, v.pending ticket = some (ask asked.step next) := by
    obtain ⟨x, -, later⟩ := run.split
    cases later with
    | next first _ =>
        cases first with
        | accessed now turn => exact ⟨_, turn⟩
        | called now answer turn => exact ⟨_, turn⟩
  obtain ⟨next, turn⟩ := turn
  obtain ⟨front, u, task, life, x, rfl, began, lifetime⟩ := run.before.arrived rfl turn
  refine ⟨front, u, task, life, rfl, fun rule keeps => ?_⟩
  obtain ⟨q, still, keeps⟩ := lifetime.keeps began keeps
  obtain rfl := Option.some.inj (still.symm.trans turn)
  exact keeps.1

theorem Run.cleared (run : Run profile .idle (before ++ (v, .acted ticket now asked) :: after) w) :
    ∃ front u task life, before = front ++ (u, .arrived ticket task) :: life ∧
      Cleared (Task.errand? profile task) (ownSteps ticket life) asked.step := by
  obtain ⟨front, u, task, life, split, follows⟩ := run.follows
  exact ⟨front, u, task, life, split, follows _ (task.request_cleared profile)⟩

theorem Event.eq_of_registered? {service executable : String} (registered : e.registered? service = some executable) :
    ∃ ticket now, e = .acted ticket now ⟨Step.access (.setCommand service executable), ()⟩ := by
  unfold Event.registered? at registered
  split at registered
  · rename_i ticket now name program answer
    split at registered
    · rename_i same
      obtain rfl := same
      obtain rfl := Option.some.inj registered
      exact ⟨ticket, now, rfl⟩
    · cases registered
  · cases registered

theorem Run.permissible (run : Run profile .idle past w) {service executable : String}
    (registered : w.tables.commands.get? service = some executable) : Permissible executable := by
  rcases run.command registered with atStart | ⟨⟨v, e⟩, mem, approved⟩
  · cases atStart
  · obtain ⟨before, after, rfl⟩ := List.append_of_mem mem
    obtain ⟨ticket, now, rfl⟩ := Event.eq_of_registered? approved
    -- Whoever registered it was harmless, since a registration launches nothing.
    obtain ⟨-, -, task, -, -, harmless | ⟨errand, program, -, launches, -⟩⟩ := run.cleared
    · exact harmless
    · exact launches.elim

theorem Event.eq_of_of? (own : e.of? ticket = some asked) : ∃ now, e = .acted ticket now asked := by
  cases e with
  | arrived => cases own
  | acted other now step =>
      simp only [Event.of?, Option.ite_none_right_eq_some, Option.some.injEq] at own
      obtain ⟨rfl, rfl⟩ := own
      exact ⟨now, rfl⟩

theorem Run.answered (run : Run profile u past w) (mem : (v, e) ∈ past) {a : Access} {answer : a.Answer}
    (own : e.of? ticket = some ⟨Step.access a, answer⟩) : ∃ now, answer = (v.tables.apply profile.id now a).1 := by
  obtain ⟨now, rfl⟩ := Event.eq_of_of? own
  obtain ⟨before, after, rfl⟩ := List.append_of_mem mem
  exact ⟨now, run.access_answer⟩

namespace Errand

variable {errand : Errand} {executable : String}

/-- Moments at which the allow-list in force contained the requester, and after that the service was registered with
exactly an executable. -/
def Granted (errand : Errand) (executable : String) (life : List (Traffic × Event)) : Prop :=
  ∃ early between late v₁ e₁ v₂ e₂, life = early ++ (v₁, e₁) :: (between ++ (v₂, e₂) :: late) ∧
    v₁.Allows errand.service errand.requester ∧ v₂.tables.commands.get? errand.service = some executable

theorem Found.granted {life : List (Traffic × Event)} (found : errand.Found executable (ownSteps ticket life))
    (run : Run profile u life w) : errand.Granted executable life := by
  obtain ⟨early, between, late, allowed, own, listed⟩ := found
  obtain ⟨early, _, rfl, -, own⟩ := List.filterMap_eq_append_iff.1 own
  obtain ⟨pre, ⟨v₁, e₁⟩, rest, rfl, -, first, own⟩ := List.filterMap_eq_cons_iff.1 own
  obtain ⟨between, rest, rfl, -, own⟩ := List.filterMap_eq_append_iff.1 own
  obtain ⟨mid, ⟨v₂, e₂⟩, late, rfl, -, second, -⟩ := List.filterMap_eq_cons_iff.1 own
  obtain ⟨_, allows⟩ := run.answered (List.mem_append_right early (List.mem_append_right pre List.mem_cons_self)) first
  obtain ⟨_, registered⟩ := run.answered (List.mem_append_right early (List.mem_append_right pre
    (List.mem_cons_of_mem _ (List.mem_append_right between (List.mem_append_right mid List.mem_cons_self))))) second
  refine ⟨early ++ pre, between ++ mid, late, v₁, e₁, v₂, e₂, ?_, ⟨allowed, allows.symm, listed⟩, registered.symm⟩
  simp

end Errand

theorem Run.listed_since (run : Run profile u ((v, e) :: past) w) {service requester : String} {list : List String}
    (stored : e.stored? service = some list) (unlisted : requester ∉ list) (allows : w.Allows service requester) :
    ∃ entry ∈ past, ∃ list, entry.2.stored? service = some list ∧ requester ∈ list := by
  obtain ⟨allowed, inForce, listed⟩ := allows
  cases run with
  | next first run =>
      rcases run.allowList inForce with atStart | ⟨entry, mem, since⟩
      · rw [first.allowList, stored] at atStart
        obtain rfl := Option.some.inj atStart
        exact (unlisted listed).elim
      · exact ⟨entry, mem, allowed, since, listed⟩

theorem Run.registered_since (run : Run profile u ((v, e) :: past) w) {service executable other : String}
    (registered : e.registered? service = some other) (ne : other ≠ executable)
    (inForce : w.tables.commands.get? service = some executable) :
    ∃ entry ∈ past, entry.2.registered? service = some executable := by
  cases run with
  | next first run =>
      rcases run.command inForce with atStart | since
      · rw [first.command, registered] at atStart
        exact (ne (Option.some.inj atStart)).elim
      · exact since

/-- What was taken back before a request arrived is not used for it: a list without the requester and another
executable were both replaced since. -/
def Errand.Current (errand : Errand) (executable : String) (front since : List (Traffic × Event)) : Prop :=
  ∀ early x e middle, front = early ++ (x, e) :: middle →
    (∀ list, e.stored? errand.service = some list → errand.requester ∉ list →
      ∃ entry ∈ middle ++ since, ∃ list, entry.2.stored? errand.service = some list ∧ errand.requester ∈ list) ∧
    (∀ other, e.registered? errand.service = some other → other ≠ executable →
      ∃ entry ∈ middle ++ since, entry.2.registered? errand.service = some executable)

theorem Errand.Granted.current {errand : Errand} {executable : String} {life : List (Traffic × Event)}
    {arrival : Traffic × Event} (granted : errand.Granted executable life)
    (run : Run profile u (before ++ arrival :: life) w) : errand.Current executable before (arrival :: life) := by
  obtain ⟨pre, between, late, v₁, e₁, v₂, e₂, rfl, allows, registered⟩ := granted
  rintro early x e middle rfl
  refine ⟨fun list stored unlisted => ?_, fun other replaced ne => ?_⟩
  -- The run is cut at what was taken back and at the moment of the grant; the change has to lie between them.
  · have run : Run profile u (early ++ (x, e) :: (middle ++ arrival :: pre) ++
        (v₁, e₁) :: (between ++ (v₂, e₂) :: late)) w := by simpa using run
    obtain ⟨y, -, run⟩ := run.before.split
    obtain ⟨entry, mem, since⟩ := run.listed_since stored unlisted allows
    refine ⟨entry, ?_, since⟩
    grind
  · have run : Run profile u (early ++ (x, e) :: (middle ++ arrival :: (pre ++ (v₁, e₁) :: between)) ++
        (v₂, e₂) :: late) w := by simpa using run
    obtain ⟨y, -, run⟩ := run.before.split
    obtain ⟨entry, mem, since⟩ := run.registered_since replaced ne registered
    refine ⟨entry, ?_, since⟩
    grind

/-- Whatever is run or handed to a peer has an executable that may be registered and arguments without operators, is
what its own request asks for, and was granted in the lifetime of that request by nothing that was taken back before. -/
theorem Run.launch_admitted (run : Run profile .idle (before ++ (v, .acted ticket now asked) :: after) w)
    {executable : String} {args : List String} (command : asked.step.command? = some (executable, args)) :
    Permissible executable ∧ (∀ arg ∈ args, ¬CarriesOperator arg) ∧
      ∃ front u task life errand, before = front ++ (u, .arrived ticket task) :: life ∧
        Task.errand? profile task = some errand ∧ asked.step.Launches errand executable ∧
        errand.Granted executable life ∧ errand.Current executable front ((u, .arrived ticket task) :: life) := by
  obtain ⟨front, u, task, life, rfl, harmless | ⟨errand, program, asks, launches, found, clean⟩⟩ := run.cleared
  · cases harmless.command?.symm.trans command
  · obtain ⟨rfl, rfl⟩ := Prod.mk.inj (Option.some.inj (launches.command?.symm.trans command))
    have run := run.before
    obtain ⟨x, -, lifetime⟩ := run.split
    have granted : errand.Granted program life := by
      cases lifetime with
      | next _ run => exact found.granted run
    refine ⟨?_, clean, front, u, task, life, errand, rfl, asks, launches, granted, granted.current run⟩
    obtain ⟨early, between, late, v₁, e₁, v₂, e₂, rfl, -, registered⟩ := granted
    have upTo : Run profile .idle (front ++ (u, .arrived ticket task) :: (early ++ (v₁, e₁) :: between) ++
        (v₂, e₂) :: late) v := by simpa using run
    exact upTo.before.permissible registered

theorem Run.launch_admitted_uname :
    ∃ before v w outcome,
      Run ⟨"pi", "pi:80", .passThrough, ⟨0⟩, []⟩ .idle
        (before ++ [(v, .acted 2 ⟨0, 0⟩ ⟨Step.call (.execute "uname" ["-a"]), outcome⟩)]) w ∧
      Permissible "uname" ∧ ∃ errand life, Errand.Granted errand "uname" life := by
  let profile : Profile := ⟨"pi", "pi:80", .passThrough, ⟨0⟩, []⟩
  let x : RemoteExecution := ⟨"weather", "amy", "uname", ["-a"]⟩
  obtain ⟨payload, -, read⟩ := Http.sealedExecution_read profile.cipher ⟨List.replicate 12 0, rfl⟩ x
  have register : Task.request profile (.register "weather" "uname") =
      ask (Step.access (.setCommand "weather" "uname")) fun _ => done () := by
    have approved : approve "weather" "uname" = .ok () := rfl
    simp only [Task.request, steps, registerService, run_bind, FallibleRequest.run_settle, done_andThen, approved,
      onSuccess_ok]
    rfl
  have execute : Task.request profile (.executeRemote payload) = steps (perform profile x).run := by
    simp only [Task.request, run_executeRemote, read, onSuccess_ok]
  have run : Run profile .idle ([_, _, _, _, _, _, _] ++ [_]) _ :=
    .next (@Next.arrived profile _ 0 (.register "weather" "uname") rfl) <|
    .next (@Next.accessed profile _ 0 _ _ ⟨0, 0⟩ (congrArg some register)) <|
    .next (@Next.arrived profile _ 1 (.store "weather" ["amy"]) rfl) <|
    .next (@Next.accessed profile _ 1 (.setAllowList "weather" ["amy"]) done ⟨0, 0⟩ rfl) <|
    .next (@Next.arrived profile _ 2 (.executeRemote payload) rfl) <|
    .next (@Next.accessed profile _ 2 _ _ ⟨0, 0⟩ (congrArg some execute)) <|
    .next (@Next.accessed profile _ 2 (.command "weather") _ ⟨0, 0⟩ rfl) <|
    .next (@Next.called profile _ 2 (.execute "uname" ["-a"]) _ ⟨0, 0⟩ (Except.ok default) rfl) <| .rest _
  obtain ⟨permissible, -, -, -, -, life, errand, -, -, -, granted, -⟩ := Run.launch_admitted run rfl
  exact ⟨_, _, _, _, run, permissible, errand, life, granted⟩

end Emplace.Device
