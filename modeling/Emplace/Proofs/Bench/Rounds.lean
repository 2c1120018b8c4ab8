import Emplace.Bench.Exchange
import Emplace.Bench.Reload
import Emplace.Proofs.Bench.Playing
import Emplace.Proofs.Device.Reloading
import Emplace.Proofs.Device.Rounds

/-!
# Rounds and scans on the bench

A recorder's rounds are rounds in a world where every step is answered at once, and what it notes are the publications
and expiries of their trace (`Recorder.run_rounds`). A scan on the bench does to the tables of its device what the
reloader asks (`Reloading.reload_eq`).
-/

namespace Emplace

open Procedure

theorem Exchange.roundsWithin_view {σ τ : Type} (view : σ → τ) {round : Nat → σ → Nat × σ}
    {round' : Nat → τ → Nat × τ}
    (each : ∀ start state, round' start (view state) = ((round start state).1, view (round start state).2))
    (tie : Bool) (interval stop bound now : Nat) (state : σ) :
    roundsWithin tie round' interval stop bound now (view state) =
      view (roundsWithin tie round interval stop bound now state) := by
  induction bound generalizing now state with
  | zero => rfl
  | succ bound ih =>
      rw [roundsWithin, roundsWithin]
      split
      · rw [each]
        exact ih ..
      · rfl

namespace Bench

namespace Recorder

variable (r : Recorder) (i : Nat) (start f : Fleet)

def replayed (log : List Exchange.Event) : Fleet :=
  log.foldl (fun f e => (((r.answer i e.asked.step).run []).run f).2) start

def world : Exchange.World := fun _ log s => ((((r.answer i s).run []).run (r.replayed i start log)).1.1, 0)

def noted? (e : Exchange.Event) : Option Event :=
  match e.asked.step with
  | .publish score => some (.publish score)
  | .expire window => some (.expire window)
  | _ => none

def view (log : List Exchange.Event) : List Event × Fleet := (log.filterMap noted?, r.replayed i start log)

theorem run_answer (s : Exchange.Step) (events : List Event) (f : Fleet) :
    ((r.answer i s).run events).run f =
      (((((r.answer i s).run []).run f).1.1, events ++ (((r.answer i s).run []).run f).1.2),
        (((r.answer i s).run []).run f).2) := by
  cases s with
  | score target => exact congrArg (fun events => ((_, events), _)) (List.append_nil events).symm
  | stamp => exact congrArg (fun events => ((_, events), _)) (List.append_nil events).symm
  | publish score => rfl
  | expire window => rfl

theorem noted?_eq (s : Exchange.Step) (f : Fleet) (e : Exchange.Event) (same : e.asked.step = s) :
    (((r.answer i s).run []).run f).1.2 = (noted? e).toList := by
  unfold noted?
  rw [same]
  cases s <;> rfl

theorem run_procedure {α : Type} (p : Exchange.Round α) (events : List Event) (now : Nat)
    (log : List Exchange.Event) :
    ∃ more a, p.run (r.world i start).answer (now, log) = (a, now, log ++ more) ∧
      ((p.run (r.answer i)).run events).run (r.replayed i start log) =
        ((a, events ++ more.filterMap noted?), r.replayed i start (log ++ more)) := by
  induction p generalizing events log with
  | done a => exact ⟨[], a, by simp; rfl, by simp; rfl⟩
  | ask s next ih =>
      let answered := ((r.answer i s).run []).run (r.replayed i start log)
      let e : Exchange.Event := ⟨now, ⟨s, answered.1.1⟩, now⟩
      have after : answered.2 = r.replayed i start (log ++ [e]) := by
        rw [replayed, List.foldl_append]
        rfl
      obtain ⟨more, a, run, played⟩ := ih answered.1.1 (events ++ answered.1.2) (log ++ [e])
      refine ⟨e :: more, a, ?_, ?_⟩
      · rw [List.append_cons]
        exact run
      · have first : (((ask s next : Exchange.Round α).run (r.answer i)).run events).run (r.replayed i start log) =
            (((next answered.1.1).run (r.answer i)).run (events ++ answered.1.2)).run answered.2 := by
          change (fun x : (s.Answer × List Event) × Fleet => (((next x.1.1).run (r.answer i)).run x.1.2).run x.2)
            (((r.answer i s).run events).run (r.replayed i start log)) = _
          rw [run_answer]
        have noted : answered.1.2 ++ more.filterMap noted? = (e :: more).filterMap noted? := by
          rw [r.noted?_eq i s _ e rfl, List.filterMap_cons]
          cases noted? e <;> rfl
        rw [first, after, played, ← noted, List.append_cons log e more, List.append_assoc events]

/-- The rounds of a recorder are those of its world, where nothing takes time. -/
theorem run_rounds (id : String) (window : Duration) (interval stop : Nat) :
    (r.world i start).Instant ∧ (r.rounds i id window interval stop).run start =
      r.view i start ((r.world i start).trace false id window interval stop) := by
  refine ⟨fun _ _ _ => rfl, ?_⟩
  refine Exchange.roundsWithin_view (r.view i start) (fun now log => ?_) false interval stop (stop + 1) 0 []
  obtain ⟨more, a, run, played⟩ := r.run_procedure i start (Exchange.tick id window) [] now log
  have round : (r.world i start).round id window now log = (now, log ++ more) := congrArg Prod.snd run
  have tick : (r.play i (Exchange.tick id window)).run (r.replayed i start log) =
      ((a, more.filterMap noted?), r.replayed i start (log ++ more)) := played
  change (now, (log.filterMap noted? ++ ((r.play i (Exchange.tick id window)).run (r.replayed i start log)).1.2,
    ((r.play i (Exchange.tick id window)).run (r.replayed i start log)).2)) = _
  rw [tick, round, view, List.filterMap_append]

end Recorder

section

variable {α : Type} {f : Fleet} {i : Nat}

def Writes : Device.Step → Prop
  | .access (.setCommand ..) | .access (.setAllowList ..) => True
  | _ => False

theorem applyChanged_writes (count : Nat) (applied : Device.Applied) (d : ServiceDescriptor) :
    (Device.applyChanged count applied d).Only Writes := by
  by_cases changes : Device.Changes applied d
  · rw [Device.applyChanged_of_changes changes]
    exact ⟨trivial, fun _ => ⟨trivial, fun _ => trivial⟩⟩
  · rw [Device.applyChanged_of_not_changes changes]
    trivial

theorem reload_writes (applied : Device.Applied) (scan : Device.Scan) : (Device.reload applied scan).Only Writes := by
  cases scan with
  | error e => trivial
  | ok ds =>
      refine Only.andThen ?_ fun _ => trivial
      exact .foldlM (fun _ d => applyChanged_writes _ _ d) (0, applied) ds

theorem Play.request_of_writes {p : Request α} (only : p.Only Writes) (here : i < f.rigs.length)
    (world : Surroundings Device.interface) (past : List (Asked Device.interface)) (localId : String) (now : Moment) :
    ((request i p).run f).1 = p.result world past ∧
      (((request i p).run f).2.rig i).tables = (f.rig i).tables.followed localId now (p.transcript world past) := by
  induction p generalizing f past with
  | done a => exact ⟨rfl, rfl⟩
  | ask s next ih =>
      cases s with
      | call c => exact only.1.elim
      | access a =>
          have within := (access_alike i a f).length ▸ here
          have written := congrArg (fun t : Tables => t.followed localId now) (tables_access here a)
          -- The answer is the same everywhere, since it tells nothing.
          cases a with
          | setCommand service executable =>
              obtain ⟨result, tables⟩ := ih () (only.2 ()) within (past ++ [world.asked past _])
              exact ⟨result, tables.trans (congrFun written _)⟩
          | setAllowList service requesters =>
              obtain ⟨result, tables⟩ := ih () (only.2 ()) within (past ++ [world.asked past _])
              exact ⟨result, tables.trans (congrFun written _)⟩
          | _ => exact only.1.elim

end

namespace Reloading

theorem reload_eq {r : Reloading} (here : 0 < r.fleet.rigs.length) (path : String)
    (world : Surroundings Device.interface) (past : List (Asked Device.interface)) (localId : String) (now : Moment) :
    let scan := Files.loadServices r.files path
    ((r.reload path).1, (r.reload path).2.applied) = (Device.reload r.applied scan).result world past ∧
      ((r.reload path).2.fleet.rig 0).tables =
        (r.fleet.rig 0).tables.followed localId now ((Device.reload r.applied scan).transcript world past) :=
  Play.request_of_writes (reload_writes r.applied _) here world past localId now

end Reloading

end Bench

end Emplace
