import Emplace.Proofs.Device.Placing
import Emplace.Proofs.Device.Publishing
import Emplace.Proofs.Device.Traffic
import Emplace.Proofs.Placement.Foremost

namespace Emplace

open Procedure Device

def Surroundings.withTables (world : Surroundings Device.interface) (localId : String) (now : Moment) (t : Tables) :
    Surroundings Device.interface
  | past, .access a => ((t.followed localId now past).apply localId now a).1
  | past, .call c => world past (.call c)

namespace Device

inductive Use
  | sample (target : String)
  | tryScore (target : String)
  | score (target : String)
  | close
  deriving DecidableEq

def Use.request : Use → Request Unit
  | .sample target => steps (Device.sample target).run
  | .tryScore target => steps (Device.tryScore target).run
  | .score target => steps (Device.score target)
  | .close => Device.close

def session : List Use → Request Unit
  | [] => done ()
  | use :: uses => use.request.andThen fun _ => session uses

def asked (world : Surroundings interface) (uses : List Use) : List (Asked interface) :=
  (session uses).transcript world []

def marks : Asked interface → Bool
  | ⟨.access .close, _⟩ => true
  | _ => false

def releases : Asked interface → Bool
  | ⟨.call .release, _⟩ => true
  | _ => false

variable {world : Surroundings interface} {localId : String} {now : Moment} {t : Tables}
  {past log : List (Asked interface)} {uses : List Use} {target : String} {outcome : Except ScoreError Readings}
  {released : Bool}

/-! ## The mark in the tables -/

theorem closed_followed (localId : String) (now : Moment) (t : Tables) (log : List (Asked interface)) :
    (t.followed localId now log).closed = (t.closed || log.any marks) := by
  induction log generalizing t with
  | nil => simp [Tables.followed]
  | cons asked log ih =>
      obtain ⟨s, answer⟩ := asked
      refine (ih _).trans ?_
      rw [List.any_cons, ← Bool.or_assoc]
      congr 1
      cases s with
      | call c => simp [marks]
      | access a => cases a <;> simp [marks, Tables.apply]

theorem withTables_isClosed :
    world.withTables localId now t past (Step.access .isClosed) = (t.closed || past.any marks) :=
  closed_followed localId now t past

theorem withTables_close :
    world.withTables localId now t past (Step.access .close) = (t.closed || past.any marks) :=
  closed_followed localId now t past

/-! ## Single uses -/

theorem marks_of_weighs {entry : Asked interface} (weighs : entry.step.Weighs) : marks entry = false := by
  obtain ⟨s, answer⟩ := entry
  cases s with
  | call c => rfl
  | access a => cases a <;> first | rfl | exact weighs.elim

theorem releases_of_weighs {entry : Asked interface} (weighs : entry.step.Weighs) : releases entry = false := by
  obtain ⟨s, answer⟩ := entry
  cases s with
  | access a => rfl
  | call c => cases c <;> first | rfl | exact weighs.elim

theorem Course.any_marks (course : Course target released log outcome) : log.any marks = false := by
  rw [List.any_eq_false]
  intro entry mem
  simp [marks_of_weighs (course.weighs entry mem)]

theorem Course.countP_releases (course : Course target released log outcome) : log.countP releases = 0 := by
  rw [List.countP_eq_zero]
  intro entry mem
  simp [releases_of_weighs (course.weighs entry mem)]

theorem Course.filterMap_sampled (course : Course target true log outcome) : log.filterMap sampled? = [] := by
  cases course
  rfl

theorem transcript_steps {α : Type} (p : Request α) : (steps p).transcript world past = p.transcript world past := by
  rw [steps, transcript_andThen, transcript_done, List.append_nil]

theorem Use.exists_course {use : Use} (other : use ≠ .close) (world : Surroundings interface)
    (past : List (Asked interface)) :
    ∃ target outcome,
      Course target (world past (Step.access .isClosed)) (use.request.transcript world past) outcome := by
  cases use with
  | sample target =>
      obtain ⟨log, outcome, course, sampled, -, -⟩ := plays_course world past target
      rw [Use.request, transcript_steps, sampled.1]
      exact ⟨target, outcome, course⟩
  | tryScore target =>
      obtain ⟨log, outcome, course, -, tried, -⟩ := plays_course world past target
      rw [Use.request, transcript_steps, tried.1]
      exact ⟨target, outcome, course⟩
  | score target =>
      obtain ⟨log, outcome, course, -, -, scored⟩ := plays_course world past target
      rw [Use.request, transcript_steps, scored.1]
      exact ⟨target, outcome, course⟩
  | close => exact absurd rfl other

theorem transcript_close : close.transcript (world.withTables localId now t) past =
    ⟨Step.access .close, t.closed || past.any marks⟩ ::
      if t.closed || past.any marks then [] else [⟨Step.call .release, ()⟩] := by
  have marked : world.withTables localId now t past (Step.access .close) = (t.closed || past.any marks) :=
    withTables_close
  -- the step that marks telemetry answers whether it was marked before, and only then is nothing left to do
  cases closed : t.closed || past.any marks with
  | true =>
      rw [closed] at marked
      have plays : Plays (world.withTables localId now t) past close [⟨Step.access .close, true⟩] () :=
        Plays.ask marked ⟨rfl, rfl⟩
      exact plays.1
  | false =>
      rw [closed] at marked
      have plays : Plays (world.withTables localId now t) past close
          [⟨Step.access .close, false⟩, ⟨Step.call .release, ()⟩] () :=
        Plays.ask marked ⟨rfl, rfl⟩
      exact plays.1

/-! ## Uses one after another -/

theorem transcript_session_cons (world : Surroundings interface) (past : List (Asked interface)) (use : Use)
    (uses : List Use) :
    (session (use :: uses)).transcript world past = use.request.transcript world past ++
      (session uses).transcript world (past ++ use.request.transcript world past) := by
  rw [session, transcript_andThen]

/-- What uses ask one after another. Telemetry was released before them or not, and is from their first closing on. -/
inductive Session : Bool → List Use → List (Asked interface) → Prop
  | nil {released : Bool} : Session released [] []
  | close {released : Bool} {uses : List Use} {later : List (Asked interface)} (rest : Session true uses later) :
    Session released (.close :: uses)
      ((⟨Step.access .close, released⟩ :: if released then [] else [⟨Step.call .release, ()⟩]) ++ later)
  | scoring {released : Bool} {use : Use} {uses : List Use} {target : String} {log later : List (Asked interface)}
    {outcome : Except ScoreError Readings} (other : use ≠ .close) (course : Course target released log outcome)
    (rest : Session released uses later) : Session released (use :: uses) (log ++ later)

theorem session_asks (localId : String) (now : Moment) (t : Tables) (past : List (Asked interface)) (uses : List Use) :
    Session (t.closed || past.any marks) uses ((session uses).transcript (world.withTables localId now t) past) := by
  -- the uses after the first see its steps in the past, so the mark it left is the one they start from
  induction uses generalizing past with
  | nil => exact .nil
  | cons use uses ih =>
      rw [transcript_session_cons]
      have rest := ih (past ++ use.request.transcript (world.withTables localId now t) past)
      rw [List.any_append, ← Bool.or_assoc] at rest
      by_cases closing : use = .close
      · subst closing
        rw [Use.request, transcript_close] at rest ⊢
        rw [List.any_cons, marks, Bool.true_or, Bool.or_true] at rest
        exact .close rest
      · obtain ⟨target, outcome, course⟩ := Use.exists_course closing (world.withTables localId now t) past
        rw [withTables_isClosed] at course
        rw [course.any_marks, Bool.or_false] at rest
        exact .scoring closing course rest

theorem Session.any_marks (session : Session released uses log) : log.any marks = decide (Use.close ∈ uses) := by
  induction session with
  | nil => rfl
  | close rest ih => simp [marks]
  | scoring other course rest ih => simp [course.any_marks, ih, Ne.symm other]

theorem Session.countP_releases (session : Session released uses log) :
    log.countP releases = if released = false ∧ Use.close ∈ uses then 1 else 0 := by
  induction session with
  | nil => simp
  | @close released uses later rest ih => cases released <;> simp [List.countP_cons, releases, ih]
  | scoring other course rest ih => simp [course.countP_releases, ih, Ne.symm other]

theorem Session.filterMap_sampled (session : Session true uses log) : log.filterMap sampled? = [] := by
  generalize closed : true = released at session
  induction session with
  | nil => rfl
  | close rest ih =>
      subst closed
      exact ih rfl
  | scoring other course rest ih =>
      subst closed
      rw [List.filterMap_append, course.filterMap_sampled, ih rfl, List.append_nil]

theorem Session.filterMap_sampled_close (session : Session released (.close :: uses) log) :
    log.filterMap sampled? = [] := by
  cases session with
  | close rest =>
      rw [List.filterMap_append, rest.filterMap_sampled, List.append_nil]
      cases released <;> rfl
  | scoring other => exact absurd rfl other

/-! ## Scores and decisions -/

theorem result_publishOnce (profile : Profile) :
    ((Exchange.publishOnce profile.id).through (exchangeStep profile)).result world past =
      (score profile.id).result world past := by
  rw [through_publishOnce, result_andThen, result_ask, result_andThen, result_done]

theorem score_of_posted {profile : Profile} {seed : String} {a : Announcement} {attempt : Http.Attempt}
    (mem : posted a seed attempt ∈
      ((Exchange.publishOnce profile.id).through (exchangeStep profile)).transcript world past) :
    a.score.score = (score profile.id).result world past := by
  have publishes := (publishOnce_publishes profile).played world past
  rw [result_publishOnce] at publishes
  obtain ⟨-, -, score⟩ := publishes.describes mem rfl
  exact score

theorem start_isSome {own : Candidate} : (Placement.start own).isSome = true ↔ isUsable own.score = true := by
  unfold Placement.start
  split <;> simp_all

theorem pos_of_decided {profile : Profile} {service : String} {d : PlacementDecision}
    (decided : (chooseTarget profile service).run.result world past = .ok d) (isLocal : d.isLocal = true) :
    0 < (score profile.id).result world past := by
  rw [result_chooseTarget] at decided
  generalize chosen : Placement.select _ _ = choice at decided
  cases choice with
  | none => cases decided
  | some best =>
      cases decided
      rcases Placement.select_cases chosen with ⟨unbeaten, -⟩ | ⟨-, front, entry, back, -, rfl⟩
      · exact Score.pos_of_isUsable unbeaten.1
      · -- a peer was chosen
        cases isLocal

theorem result_score_of_released (released : world past (Step.access .isClosed) = true) (target : String) :
    (score target).result world past = 0.0 := by
  obtain ⟨log, outcome, course, -, -, scored⟩ := plays_course world past target
  rw [released] at course
  cases course
  exact scored.2

/-! ## The result -/

/-- What a scorer does once it was used in some ways; `released` says whether telemetry was released before all of
them. -/
structure ScoresUntilClosed (world : Surroundings interface) (released : Bool) (uses : List Use) : Prop where
  course : ∀ target, ∃ log outcome, Course target (released || decide (Use.close ∈ uses)) log outcome ∧
    Plays world (asked world uses) (sample target).run log outcome ∧
    Plays world (asked world uses) (tryScore target).run log (outcome.map Scoring.total) ∧
    Plays world (asked world uses) (score target) log (valueOf (outcome.map Scoring.total))
  once : (asked world uses).countP releases = if released = false ∧ Use.close ∈ uses then 1 else 0
  silent : ∀ front back, uses = front ++ .close :: back →
    ((session (.close :: back)).transcript world (asked world front)).filterMap sampled? = []
  value : ∀ target, (score target).result world (asked world uses) = 0.0 ∨
    ((score target).result world (asked world uses)).isFinite = true ∧
      0 < (score target).result world (asked world uses)
  candidate : ∀ profile : Profile,
    (Placement.start ⟨profile.id, profile.address, (score profile.id).result world (asked world uses)⟩).isSome = true ↔
      0 < (score profile.id).result world (asked world uses)
  announced : ∀ profile seed a attempt, posted a seed attempt ∈
      ((Exchange.publishOnce profile.id).through (exchangeStep profile)).transcript world (asked world uses) →
    a.score.score = (score profile.id).result world (asked world uses) ∧
      (a.score.isUsable = true ↔ 0 < (score profile.id).result world (asked world uses))
  barred : released = true ∨ Use.close ∈ uses → ∀ profile service d,
    (chooseTarget profile service).run.result world (asked world uses) = .ok d → d.isLocal = false

theorem scoresUntilClosed (world : Surroundings interface) (localId : String) (now : Moment) (t : Tables)
    (uses : List Use) : ScoresUntilClosed (world.withTables localId now t) t.closed uses := by
  have mark : world.withTables localId now t (asked (world.withTables localId now t) uses) (Step.access .isClosed) =
      (t.closed || decide (Use.close ∈ uses)) := by
    rw [withTables_isClosed, asked, (session_asks ..).any_marks]
  -- from here on only the answer about the mark is needed; the counts still unfold the world itself
  generalize around : world.withTables localId now t = device at mark
  constructor
  case course =>
    intro target
    have scoring := plays_course device (asked device uses) target
    rwa [mark] at scoring
  case once =>
    rw [asked, ← around, (session_asks ..).countP_releases, List.any_nil, Bool.or_false]
  case silent =>
    intro front back split
    rw [← around]
    exact (session_asks localId now t _ _).filterMap_sampled_close
  case value =>
    intro target
    rw [← isUsable_iff]
    exact result_score_cases device (asked device uses) target
  case candidate =>
    intro profile
    rw [start_isSome, pos_score_iff]
  case announced =>
    intro profile seed a attempt mem
    have score := score_of_posted mem
    refine ⟨score, ?_⟩
    rw [DeviceScore.isUsable, score, pos_score_iff]
  case barred =>
    intro closed profile service d decided
    have released : device (asked device uses) (Step.access .isClosed) = true := by
      rw [mark]
      simpa using closed
    cases isLocal : d.isLocal with
    | false => rfl
    | true =>
        have positive := pos_of_decided decided isLocal
        rw [result_score_of_released released] at positive
        exact absurd positive (by decide)

end Device

end Emplace
