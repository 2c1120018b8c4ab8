import Emplace.Device.Exchange
import Emplace.Proofs.Device.Reloading
import Emplace.Proofs.Device.Sampling

namespace Emplace.Device

open Procedure

def posted (a : Announcement) (seed : String) (attempt : Http.Attempt) : Asked interface :=
  ⟨Step.call (.announce seed a), attempt⟩

def Took (attempt : Http.Attempt) : Prop :=
  ∃ status body, attempt = .answered status body ∧ 200 ≤ status ∧ status < 300

structure Heard (profile : Profile) (score : DeviceScore) (attempts : List Http.Attempt) (log : List (Asked interface))
    (answer : Except Unpublished Unit) : Prop where
  each : attempts.length = profile.seeds.length
  posts : log = (profile.seeds.zip attempts).map fun p => posted ⟨profile.id, profile.address, score⟩ p.1 p.2
  failed : ∀ e, answer = .error e ↔
    profile.seeds ≠ [] ∧ (∀ attempt ∈ attempts, ¬Took attempt) ∧ e.tried = profile.seeds.length

inductive Publishes (profile : Profile) : List (Asked interface) → Float → Prop
  | published {released : Bool} {scoring posts : List (Asked interface)} {outcome : Except ScoreError Readings}
    {attempts : List Http.Attempt} {answer : Except Unpublished Unit}
    (course : Course profile.id released scoring outcome) (stamp : UInt64)
    (heard : Heard profile ⟨profile.id, valueOf (outcome.map Scoring.total), stamp⟩ attempts posts answer) :
    Publishes profile (scoring ++ ⟨Step.call .stamp, stamp⟩ :: posts) (valueOf (outcome.map Scoring.total))

variable {profile : Profile} {log : List (Asked interface)} {value : Float} {window : Duration}

theorem succeeded_iff {attempt : Http.Attempt} : attempt.succeeded = true ↔ Took attempt := by
  cases attempt <;> simp [Http.Attempt.succeeded, Http.isSuccess, Took]

theorem always_mapM_announce (a : Announcement) (seeds : List String) :
    (seeds.mapM fun seed => Request.call (.announce seed a)).Always fun log (attempts : List Http.Attempt) =>
      attempts.length = seeds.length ∧ log = (seeds.zip attempts).map fun p => posted a p.1 p.2 := by
  induction seeds with
  | nil => exact ⟨rfl, rfl⟩
  | cons seed seeds ih =>
      rw [List.mapM_cons]
      intro attempt
      apply Always.map
      refine ih.mono fun log attempts reached => ?_
      obtain ⟨each, rfl⟩ := reached
      exact ⟨congrArg (· + 1) each, rfl⟩

theorem publication_eq_error_iff {tried failed : Nat} {e : Unpublished} :
    publication tried failed = .error e ↔ 0 < failed ∧ failed = tried ∧ e.tried = tried := by
  unfold publication
  split
  · rename_i none
    rw [Except.error.injEq]
    constructor
    · rintro rfl
      exact ⟨none.1, none.2, none.2⟩
    · intro failed
      cases e
      simp_all
  · rename_i some
    simp only [reduceCtorEq, false_iff]
    exact fun failed => some ⟨failed.1, failed.2.1⟩

theorem publish_heard (profile : Profile) (score : DeviceScore) :
    (publish profile score).Always fun log answer => ∃ attempts, Heard profile score attempts log answer := by
  apply Always.map
  refine (always_mapM_announce _ _).mono fun log attempts reached => ?_
  obtain ⟨each, posts⟩ := reached
  refine ⟨attempts, each, posts, fun e => ?_⟩
  -- publishing counts failures, and only if there are as many as seeds did every attempt fail
  have all : attempts.countP (fun a => !a.succeeded) = profile.seeds.length ↔ ∀ attempt ∈ attempts, ¬Took attempt := by
    simp only [← each, List.countP_eq_length, Bool.not_eq_true', ← succeeded_iff, Bool.not_eq_true]
  rw [publication_eq_error_iff, all]
  constructor
  · rintro ⟨failed, untaken, tried⟩
    rw [all.2 untaken] at failed
    exact ⟨List.length_pos_iff.1 failed, untaken, tried⟩
  · rintro ⟨nonempty, untaken, tried⟩
    rw [all.2 untaken]
    exact ⟨List.length_pos_iff.2 nonempty, untaken, tried⟩

theorem publish_announces (profile : Profile) (score : DeviceScore) :
    (publish profile score).Only fun s : Step =>
      ∃ seed, s = .call (.announce seed ⟨profile.id, profile.address, score⟩) := by
  have posts (seed : String) : (Request.call (.announce seed ⟨profile.id, profile.address, score⟩)).Only
      fun s : Step => ∃ seed, s = .call (.announce seed ⟨profile.id, profile.address, score⟩) :=
    ⟨⟨seed, rfl⟩, fun _ => trivial⟩
  exact (Only.mapM posts profile.seeds).andThen fun _ => trivial

theorem publish_unchanging (profile : Profile) (score : DeviceScore) :
    (publish profile score).Only Step.Unchanging := by
  refine (publish_announces profile score).mono fun s announces => ?_
  obtain ⟨seed, rfl⟩ := announces
  trivial

theorem through_publishOnce (profile : Profile) :
    (Exchange.publishOnce profile.id).through (exchangeStep profile) =
      (score profile.id).andThen fun value => ask (Step.call .stamp) fun (stamp : UInt64) =>
        (publish profile ⟨profile.id, value, stamp⟩).andThen fun _ => done value := rfl

theorem through_tick (profile : Profile) (window : Duration) :
    (Exchange.tick profile.id window).through (exchangeStep profile) =
      ((Exchange.publishOnce profile.id).through (exchangeStep profile)).andThen fun _ =>
        ask (Step.access (.expire window)) fun _ => done () :=
  through_andThen ..

theorem publishOnce_publishes (profile : Profile) :
    ((Exchange.publishOnce profile.id).through (exchangeStep profile)).Always (Publishes profile) := by
  rw [through_publishOnce]
  refine (score_course profile.id).andThen fun scoring value scored stamp => ?_
  obtain ⟨released, outcome, course, rfl⟩ := scored
  apply Always.map
  refine (publish_heard profile _).mono fun posts answer heard => ?_
  obtain ⟨attempts, heard⟩ := heard
  exact .published course stamp heard

def Ticks (profile : Profile) (window : Duration) (log : List (Asked interface)) : Prop :=
  ∃ publishing value gone, Publishes profile publishing value ∧
    log = publishing ++ [⟨Step.access (.expire window), gone⟩]

theorem tick_ticks (profile : Profile) (window : Duration) :
    ((Exchange.tick profile.id window).through (exchangeStep profile)).Always fun log _ =>
      Ticks profile window log := by
  rw [through_tick]
  refine (publishOnce_publishes profile).andThen fun publishing value publishes gone => ?_
  exact ⟨publishing, value, gone, publishes, rfl⟩

def Describes (profile : Profile) (score : Float) (a : Announcement) : Prop :=
  a.deviceId = profile.id ∧ a.address = profile.address ∧ a.score.score = score

theorem Publishes.describes (publishes : Publishes profile log value) {entry : Asked interface} (mem : entry ∈ log)
    {seed : String} {a : Announcement} (step : entry.step = Step.call (.announce seed a)) :
    Describes profile value a := by
  cases publishes with
  | published course stamp heard =>
      rcases List.mem_append.1 mem with scoring | later
      · have weighs := course.weighs entry scoring
        rw [step] at weighs
        exact weighs.elim
      rcases List.mem_cons.1 later with rfl | post
      · cases step
      rw [heard.posts] at post
      obtain ⟨⟨seed', attempt⟩, -, rfl⟩ := List.mem_map.1 post
      cases step
      exact ⟨rfl, rfl, rfl⟩

theorem followed_of_unchanging {localId : String} {now : Moment} {t : Tables}
    (unchanging : ∀ entry ∈ log, entry.step.Unchanging) : t.followed localId now log = t := by
  induction log with
  | nil => rfl
  | cons entry log ih =>
      obtain ⟨first, rest⟩ := List.forall_mem_cons.1 unchanging
      obtain ⟨s, answer⟩ := entry
      cases s with
      | call c => exact ih rest
      | access a =>
          have same : (t.apply localId now a).2 = t := first localId now t
          have step : t.followed localId now (⟨.access a, answer⟩ :: log) =
              (t.apply localId now a).2.followed localId now log := rfl
          rw [step, same]
          exact ih rest

theorem Publishes.unchanging (publishes : Publishes profile log value) : ∀ entry ∈ log, entry.step.Unchanging := by
  cases publishes with
  | published course stamp heard =>
      intro entry mem
      rcases List.mem_append.1 mem with scoring | later
      · exact (course.weighs entry scoring).looks.unchanging
      rcases List.mem_cons.1 later with rfl | post
      · trivial
      rw [heard.posts] at post
      obtain ⟨pair, -, rfl⟩ := List.mem_map.1 post
      trivial

theorem Ticks.followed (ticks : Ticks profile window log) (localId : String) (now : Moment) (t : Tables) :
    t.followed localId now log = (t.apply localId now (.expire window)).2 := by
  obtain ⟨publishing, value, gone, publishes, rfl⟩ := ticks
  -- up to the expiry nothing is written
  rw [Tables.followed_append, followed_of_unchanging publishes.unchanging]
  rfl

/-- What publishing does for any outcomes of the attempts, by itself and in a round. -/
structure EverySeedHears (profile : Profile) : Prop where
  heard : ∀ score, (publish profile score).Always fun log answer => ∃ attempts, Heard profile score attempts log answer
  unchanging : ∀ score, (publish profile score).Only Step.Unchanging
  returned : ((Exchange.publishOnce profile.id).through (exchangeStep profile)).Always (Publishes profile)
  ticks : ∀ window, ((Exchange.tick profile.id window).through (exchangeStep profile)).Always fun log _ =>
    Ticks profile window log ∧
      ∀ localId now (t : Tables), t.followed localId now log = (t.apply localId now (.expire window)).2

theorem everySeedHears (profile : Profile) : EverySeedHears profile where
  heard score := publish_heard profile score
  unchanging score := publish_unchanging profile score
  returned := publishOnce_publishes profile
  ticks window := (tick_ticks profile window).mono fun _ _ ticks => ⟨ticks, ticks.followed⟩

end Emplace.Device
