import Emplace.Proofs.Device.Steps
import Emplace.Proofs.Procedure.Play
import Emplace.Proofs.Scoring.Order

namespace Emplace

open Procedure

def Readings.figure (r : Readings) : Metric → Float
  | .cpuUsage => r.cpuUsage
  | .cpuCount => r.cpuCount
  | .cpuFrequency => r.cpuFrequency
  | .bandwidth => r.bandwidth
  | .roundTrip _ => r.roundTrip

namespace Device

def gaugesFor (target : String) : List Metric :=
  [.cpuUsage, .cpuCount, .cpuFrequency, .bandwidth, .roundTrip target]

def sampled? : Asked interface → Option Metric
  | ⟨.call (.sample metric), _⟩ => some metric
  | _ => none

def reading (metric : Metric) (figure : Except TelemetryError Float) : Asked interface :=
  ⟨Step.call (.sample metric), figure⟩

inductive Sampling (target : String) : List (Asked interface) → Except ScoreError Readings → Prop
  | complete (r : Readings) : Sampling target ((gaugesFor target).map fun m => reading m (.ok (r.figure m))) (.ok r)
  | failed (r : Readings) (before : List Metric) {metric : Metric} {after : List Metric} {e : TelemetryError}
    (split : gaugesFor target = before ++ metric :: after) :
    Sampling target ((before.map fun m => reading m (.ok (r.figure m))) ++ [reading metric (.error e)])
      (.error (.unavailable metric e))

/-- What a scoring asks and what the readings come to, once telemetry was released and before. -/
inductive Course (target : String) : Bool → List (Asked interface) → Except ScoreError Readings → Prop
  | released : Course target true [⟨Step.access .isClosed, true⟩] (.error .closed)
  | sampling {log : List (Asked interface)} {outcome : Except ScoreError Readings}
    (sampling : Sampling target log outcome) :
    Course target false (⟨Step.access .isClosed, false⟩ :: log) outcome

variable {target : String}

theorem always_sampleMetric {α : Type} {metric : Metric} {f : Float → Procedure.Fallible interface ScoreError α}
    {post : List (Asked interface) → Except ScoreError α → Prop}
    (fails : ∀ e, post [reading metric (.error e)] (.error (.unavailable metric e)))
    (rest : ∀ x, (f x).run.Always fun log outcome => post (reading metric (.ok x) :: log) outcome) :
    (sampleMetric metric >>= f).run.Always post := by
  intro figure
  cases figure with
  | error e => exact fails e
  | ok x => exact rest x

def readGauges (target : String) : Procedure.Fallible interface ScoreError Readings := do
  let cpuUsage ← sampleMetric .cpuUsage
  let cpuCount ← sampleMetric .cpuCount
  let cpuFrequency ← sampleMetric .cpuFrequency
  let bandwidth ← sampleMetric .bandwidth
  let roundTrip ← sampleMetric (.roundTrip target)
  return ⟨cpuUsage, cpuCount, cpuFrequency, bandwidth, roundTrip⟩

theorem readGauges_sampling (target : String) : (readGauges target).run.Always (Sampling target) := by
  -- The figures of gauges that are not reached do not matter.
  apply always_sampleMetric
  · exact fun e => .failed ⟨0, 0, 0, 0, 0⟩ [] rfl
  intro usage
  apply always_sampleMetric
  · exact fun e => .failed ⟨usage, 0, 0, 0, 0⟩ [.cpuUsage] rfl
  intro count
  apply always_sampleMetric
  · exact fun e => .failed ⟨usage, count, 0, 0, 0⟩ [.cpuUsage, .cpuCount] rfl
  intro frequency
  apply always_sampleMetric
  · exact fun e => .failed ⟨usage, count, frequency, 0, 0⟩ [.cpuUsage, .cpuCount, .cpuFrequency] rfl
  intro bandwidth
  apply always_sampleMetric
  · exact fun e => .failed ⟨usage, count, frequency, bandwidth, 0⟩ [.cpuUsage, .cpuCount, .cpuFrequency, .bandwidth] rfl
  intro roundTrip
  exact .complete ⟨usage, count, frequency, bandwidth, roundTrip⟩

theorem run_sample (target : String) :
    (sample target).run = ask (Step.access .isClosed) fun (released : Bool) =>
      if released then done (.error .closed) else (readGauges target).run := by
  refine congrArg (@ask interface _ (Step.access .isClosed)) (funext fun released => ?_)
  cases released <;> rfl

theorem sample_course (target : String) :
    (sample target).run.Always fun log outcome => ∃ released, Course target released log outcome := by
  rw [run_sample]
  intro released
  cases released with
  | true => exact ⟨true, .released⟩
  | false => exact (readGauges_sampling target).mono fun log outcome sampling => ⟨false, .sampling sampling⟩

theorem Sampling.prefix {log : List (Asked interface)} {outcome : Except ScoreError Readings}
    (sampling : Sampling target log outcome) : log.filterMap sampled? <+: gaugesFor target := by
  have read (r : Readings) (metrics : List Metric) :
      (metrics.map fun m => reading m (.ok (r.figure m))).filterMap sampled? = metrics := by
    rw [List.filterMap_map]
    exact List.filterMap_some
  cases sampling with
  | complete r => exact ⟨[], by rw [read, List.append_nil]⟩
  | failed r before split =>
      rw [List.filterMap_append, read, split]
      exact (List.prefix_append_right_inj before).2 (List.prefix_append [_] _)

theorem Sampling.weighs {log : List (Asked interface)} {outcome : Except ScoreError Readings}
    (sampling : Sampling target log outcome) : ∀ entry ∈ log, entry.step.Weighs := by
  intro entry mem
  cases sampling with
  | complete r =>
      obtain ⟨m, -, rfl⟩ := List.mem_map.1 mem
      trivial
  | failed r before split =>
      rcases List.mem_append.1 mem with shown | failing
      · obtain ⟨m, -, rfl⟩ := List.mem_map.1 shown
        trivial
      · obtain rfl := List.mem_singleton.1 failing
        trivial

theorem Course.weighs {released : Bool} {log : List (Asked interface)} {outcome : Except ScoreError Readings}
    (course : Course target released log outcome) : ∀ entry ∈ log, entry.step.Weighs := by
  cases course with
  | released => exact List.forall_mem_singleton.2 trivial
  | sampling sampling => exact List.forall_mem_cons.2 ⟨trivial, sampling.weighs⟩

theorem Course.prefix {released : Bool} {log : List (Asked interface)} {outcome : Except ScoreError Readings}
    (course : Course target released log outcome) : log.filterMap sampled? <+: gaugesFor target := by
  cases course with
  | released => exact List.nil_prefix
  | sampling sampling => exact sampling.prefix

def valueOf : Except ScoreError Float → Float
  | .ok x => x
  | .error _ => 0.0

theorem run_tryScore (target : String) :
    (tryScore target).run = (sample target).run.andThen fun outcome => done (outcome.map Scoring.total) :=
  run_bind_pure ..

theorem score_eq (target : String) :
    score target = (tryScore target).run.andThen fun outcome => done (valueOf outcome) := by
  refine congrArg (andThen _) (funext fun outcome => ?_)
  cases outcome <;> rfl

theorem plays_sample (world : Surroundings interface) (past : List (Asked interface)) (target : String) :
    ∃ log outcome, Course target (world past (Step.access .isClosed)) log outcome ∧
      Plays world past (sample target).run log outcome := by
  rw [run_sample]
  cases released : (world past (Step.access .isClosed) : Bool) with
  | true =>
      refine ⟨_, _, .released, Plays.ask released ?_⟩
      exact ⟨rfl, rfl⟩
  | false =>
      refine ⟨_, _, .sampling ?_, Plays.ask released ⟨rfl, rfl⟩⟩
      exact (readGauges_sampling target).played world (past ++ [⟨Step.access .isClosed, false⟩])

theorem plays_course (world : Surroundings interface) (past : List (Asked interface)) (target : String) :
    ∃ log outcome, Course target (world past (Step.access .isClosed)) log outcome ∧
      Plays world past (sample target).run log outcome ∧
      Plays world past (tryScore target).run log (outcome.map Scoring.total) ∧
      Plays world past (score target) log (valueOf (outcome.map Scoring.total)) := by
  obtain ⟨log, outcome, course, sampled⟩ := plays_sample world past target
  have tried : Plays world past (tryScore target).run log (outcome.map Scoring.total) := by
    rw [run_tryScore]
    exact sampled.map _
  have scored : Plays world past (score target) log (valueOf (outcome.map Scoring.total)) := by
    rw [score_eq]
    exact tried.map _
  exact ⟨log, outcome, course, sampled, tried, scored⟩

theorem score_course (target : String) :
    (score target).Always fun log value =>
      ∃ released outcome, Course target released log outcome ∧ value = valueOf (outcome.map Scoring.total) := by
  rw [score_eq, run_tryScore]
  apply Always.map
  apply Always.map
  refine (sample_course target).mono fun log outcome course => ?_
  obtain ⟨released, course⟩ := course
  exact ⟨released, outcome, course, rfl⟩

theorem isUsable_iff {x : Float} : isUsable x = true ↔ x.isFinite = true ∧ 0 < x := by
  rw [isUsable, Bool.and_eq_true, decide_eq_true_iff]

theorem total_cases (r : Readings) : Scoring.total r = 0.0 ∨ isUsable (Scoring.total r) = true := by
  unfold Scoring.total
  split
  · exact .inr ‹_›
  · exact .inl rfl

theorem valueOf_cases (outcome : Except ScoreError Readings) :
    valueOf (outcome.map Scoring.total) = 0.0 ∨ isUsable (valueOf (outcome.map Scoring.total)) = true := by
  cases outcome with
  | ok r => exact total_cases r
  | error e => exact .inl rfl

theorem result_score_cases (world : Surroundings interface) (past : List (Asked interface)) (target : String) :
    (score target).result world past = 0.0 ∨ isUsable ((score target).result world past) = true := by
  obtain ⟨log, outcome, -, -, -, scored⟩ := plays_course world past target
  rw [scored.2]
  exact valueOf_cases outcome

theorem pos_score_iff (world : Surroundings interface) (past : List (Asked interface)) (target : String) :
    0 < (score target).result world past ↔ isUsable ((score target).result world past) = true := by
  refine ⟨fun positive => ?_, Score.pos_of_isUsable⟩
  obtain zero | usable := result_score_cases world past target
  · rw [zero] at positive
    exact absurd positive (by decide)
  · exact usable

end Device

end Emplace
