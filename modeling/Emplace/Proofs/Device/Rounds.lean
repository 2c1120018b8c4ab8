import Emplace.Device.Exchange
import Emplace.Proofs.Procedure.Play
import Mathlib.Data.Nat.Factorization.Basic

namespace Emplace.Exchange

open Procedure

structure Event where
  start : Nat
  asked : Asked interface
  ended : Nat

/-- What answers the steps, in view of the time and of all that happened, and how long each answer takes. -/
abbrev World := Nat → List Event → (s : Step) → s.Answer × Nat

namespace World

def Instant (world : World) : Prop := ∀ now log s, (world now log s).2 = 0

def answer (world : World) (s : Step) : StateM (Nat × List Event) s.Answer := fun (now, log) =>
  let (answer, span) := world now log s
  (answer, now + span, log ++ [⟨now, ⟨s, answer⟩, now + span⟩])

def round (world : World) (id : String) (window : Duration) (start : Nat) (log : List Event) : Nat × List Event :=
  ((tick id window).run world.answer (start, log)).2

def trace (world : World) (tie : Bool) (id : String) (window : Duration) (interval stop : Nat) : List Event :=
  rounds tie (world.round id window) interval stop []

end World

structure Played where
  start : Nat
  value : Float
  scoring : Nat
  stamp : UInt64
  stamping : Nat
  outcome : Except Unpublished Unit
  publishing : Nat
  gone : List String
  expiring : Nat

namespace Played

variable (p : Played)

def scored : Nat := p.start + p.scoring

def stamped : Nat := p.scored + p.stamping

def published : Nat := p.stamped + p.publishing

def ended : Nat := p.published + p.expiring

def events (id : String) (window : Duration) : List Event :=
  [⟨p.start, ⟨.score id, p.value⟩, p.scored⟩,
   ⟨p.scored, ⟨.stamp, p.stamp⟩, p.stamped⟩,
   ⟨p.stamped, ⟨.publish ⟨id, p.value, p.stamp⟩, p.outcome⟩, p.published⟩,
   ⟨p.published, ⟨.expire window, p.gone⟩, p.ended⟩]

theorem start_le_ended : p.start ≤ p.ended := by
  unfold ended published stamped scored
  omega

end Played

/-- A round may start: before `stop` always, at `stop` if the timer wins the tie, and after it never. -/
def Due (tie : Bool) (stop start : Nat) : Prop := start < stop ∨ start = stop ∧ tie = true

/-- The rounds after `now`: each starts an interval after the end of the one before it, and they go on as long as a
round may start. -/
inductive Until (tie : Bool) (interval stop : Nat) : Nat → List Played → Prop
  | stopped {now : Nat} (late : ¬Due tie stop (now + interval)) : Until tie interval stop now []
  | next {now : Nat} {p : Played} {later : List Played} (start : p.start = now + interval) (due : Due tie stop p.start)
    (rest : Until tie interval stop p.ended later) : Until tie interval stop now (p :: later)

variable {tie : Bool} {interval stop : Nat}

theorem isPlayed_iff {start : Nat} : isPlayed tie stop start = true ↔ Due tie stop start := by
  simp [isPlayed, Due, and_comm]

theorem tick_eq (id : String) (window : Duration) :
    tick id window = ask (Step.score id) fun (value : Float) => ask Step.stamp fun (stamp : UInt64) =>
      ask (Step.publish ⟨id, value, stamp⟩) fun _ => ask (Step.expire window) fun _ => done () := rfl

theorem World.run_ask (world : World) (s : Step) (next : s.Answer → Round Unit) (now : Nat) (log : List Event) :
    ∃ answer span, (world.Instant → span = 0) ∧
      (ask s next : Round Unit).run world.answer (now, log) =
        (next answer).run world.answer (now + span, log ++ [⟨now, ⟨s, answer⟩, now + span⟩]) :=
  ⟨_, _, fun instant => instant now log s, rfl⟩

theorem World.round_played (world : World) (id : String) (window : Duration) (start : Nat) (log : List Event) :
    ∃ p : Played, p.start = start ∧ (world.Instant → p.ended = start) ∧
      world.round id window start log = (p.ended, log ++ p.events id window) := by
  -- each step adds its answer to the log and its span to the time, and the next goes on from there
  unfold World.round
  rw [tick_eq]
  obtain ⟨value, scoring, scored, run⟩ := world.run_ask (.score id) _ start log
  rw [run]
  obtain ⟨stamp, stamping, stamped, run⟩ := world.run_ask .stamp _ (start + scoring) _
  rw [run]
  obtain ⟨outcome, publishing, published, run⟩ := world.run_ask (.publish ⟨id, value, stamp⟩) _ _ _
  rw [run]
  obtain ⟨gone, expiring, ended, run⟩ := world.run_ask (.expire window) _ _ _
  rw [run]
  refine ⟨⟨start, value, scoring, stamp, stamping, outcome, publishing, gone, expiring⟩, rfl, fun instant => ?_, ?_⟩
  · simp only [Played.ended, Played.published, Played.stamped, Played.scored, scored instant, stamped instant,
      published instant, ended instant, Nat.add_zero]
  · simp only [List.append_assoc, List.singleton_append]
    rfl

theorem roundsWithin_until (world : World) (tie : Bool) (id : String) (window : Duration) (positive : 0 < interval)
    {bound now : Nat} (enough : stop ≤ now + bound) (log : List Event) :
    ∃ played, roundsWithin tie (world.round id window) interval stop bound now log =
        log ++ played.flatMap (·.events id window) ∧
      Until tie interval stop now played ∧ (world.Instant → ∀ p ∈ played, p.ended = p.start) := by
  induction bound generalizing now log with
  | zero =>
      -- every round ends at its start or later and waits at least one unit more: the bound cuts no round off
      refine ⟨[], (List.append_nil log).symm, .stopped fun due => ?_, by simp⟩
      unfold Due at due
      omega
  | succ bound ih =>
      rw [roundsWithin]
      by_cases due : Due tie stop (now + interval)
      · obtain ⟨p, start, instant, round⟩ := world.round_played id window (now + interval) log
        simp only [isPlayed_iff.2 due, if_true, round]
        have forward := p.start_le_ended
        have enough : stop ≤ p.ended + bound := by omega
        obtain ⟨later, run, rest, instants⟩ := ih enough (log ++ p.events id window)
        refine ⟨p :: later, ?_, .next start (start ▸ due) rest, fun still => ?_⟩
        · rw [run, List.flatMap_cons, List.append_assoc]
        · exact List.forall_mem_cons.2 ⟨(instant still).trans start.symm, instants still⟩
      · have late : ¬isPlayed tie stop (now + interval) = true := fun played => due (isPlayed_iff.1 played)
        simp only [late, Bool.false_eq_true, if_false]
        exact ⟨[], (List.append_nil log).symm, .stopped due, by simp⟩

def multiplesBefore (interval stop : Nat) : Nat := ((Finset.Ioo 0 stop).filter (interval ∣ ·)).card

theorem multiplesBefore_succ (interval last : Nat) : multiplesBefore interval (last + 1) = last / interval := by
  have upTo : Finset.Ioo 0 (last + 1) = Finset.Ioc 0 last := by
    ext start
    simp only [Finset.mem_Ioo, Finset.mem_Ioc, Nat.lt_succ_iff]
  rw [multiplesBefore, upTo, Nat.Ioc_filter_dvd_card_eq_div]

def lastStart (tie : Bool) (stop : Nat) : Nat := if tie then stop else stop - 1

theorem due_iff {start : Nat} (positive : 0 < start) : Due tie stop start ↔ start ≤ lastStart tie stop := by
  cases tie with
  | false =>
      simp only [Due, lastStart, Bool.false_eq_true, and_false, or_false, if_false]
      omega
  | true =>
      simp only [Due, lastStart, and_true, if_true]
      omega

theorem lastStart_div (tie : Bool) (interval stop : Nat) :
    lastStart tie stop / interval =
      multiplesBefore interval stop + if tie = true ∧ 0 < stop ∧ interval ∣ stop then 1 else 0 := by
  cases stop with
  | zero => cases tie <;> simp [lastStart, multiplesBefore]
  | succ last =>
      rw [multiplesBefore_succ]
      cases tie with
      | false => simp [lastStart]
      | true => simp [lastStart, Nat.succ_div]

theorem Until.length_eq (positive : 0 < interval) {now : Nat} {played : List Played}
    (rounds : Until tie interval stop now played) (instant : ∀ p ∈ played, p.ended = p.start) :
    played.length = (lastStart tie stop - now) / interval := by
  -- without time in between, each round takes one interval off what is left until the last start
  induction rounds with
  | stopped late =>
      rw [due_iff (by omega)] at late
      exact (Nat.div_eq_of_lt (by omega)).symm
  | next start due rest ih =>
      obtain ⟨first, others⟩ := List.forall_mem_cons.1 instant
      rw [due_iff (by omega)] at due
      have more := Nat.div_eq_sub_div positive (Nat.le_sub_of_add_le' (start ▸ due))
      rw [List.length_cons, ih others, first, start, more, Nat.sub_sub]

structure Traced (world : World) (tie : Bool) (id : String) (window : Duration) (interval stop : Nat)
    (played : List Played) : Prop where
  trace : world.trace tie id window interval stop = played.flatMap (·.events id window)
  rounds : Until tie interval stop 0 played
  count : world.Instant →
    played.length = multiplesBefore interval stop + if tie = true ∧ 0 < stop ∧ interval ∣ stop then 1 else 0

theorem exists_traced (world : World) (tie : Bool) (id : String) (window : Duration) {interval : Nat} (stop : Nat)
    (positive : 0 < interval) : ∃ played, Traced world tie id window interval stop played := by
  obtain ⟨played, trace, rounds, instants⟩ :=
    roundsWithin_until world tie id window positive (Nat.le_add_left_of_le (Nat.le_succ stop)) []
  refine ⟨played, trace, rounds, fun instant => ?_⟩
  rw [rounds.length_eq positive (instants instant), Nat.sub_zero, lastStart_div]

def stuck : World := fun _ _ s =>
  match s with
  | .score _ => (0, 0)
  | .stamp => (0, 0)
  | .publish _ => (.error ⟨1⟩, 3)
  | .expire _ => ([], 0)

theorem exists_traced_stuck : 0 < 2 ∧ ∃ played, Traced stuck false "a" ⟨5⟩ 2 9 played :=
  ⟨by decide, exists_traced stuck false "a" ⟨5⟩ 9 (by decide)⟩

end Emplace.Exchange
