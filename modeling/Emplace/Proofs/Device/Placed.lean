import Emplace.Proofs.Device.Admitted
import Emplace.Proofs.Device.Placing
import Emplace.Proofs.Device.Sampling

namespace Emplace.Device

open Procedure Placement

def Step.Goes (d : PlacementDecision) : Step → Prop
  | .call (.execute ..) => d.isLocal = true
  | .call (.send address _ _) => d.isLocal = false ∧ address = d.targetAddress
  | _ => False

def Weighed (profile : Profile) (service : String) (past : List (Asked interface)) (d : PlacementDecision) : Prop :=
  ∃ early log late released outcome peers,
    past = early ++ log ++ ⟨Step.access .peers, peers⟩ :: late ∧ Course profile.id released log outcome ∧
    placed service (select ⟨profile.id, profile.address, valueOf (outcome.map Scoring.total)⟩ peers) = .ok d

def Sited (profile : Profile) (service : String) (past : List (Asked interface)) (s : Step) : Prop :=
  s.Harmless ∨ ∃ d, Weighed profile service past d ∧ s.Goes d

variable {profile : Profile} {service : String} {past : List (Asked interface)}

theorem dispatch_sited {d : PlacementDecision} (weighed : Weighed profile service past d) (x : RemoteExecution)
    (limit? : Option Duration) : (dispatch profile d x limit?).run.Keeps (Sited profile service) past := by
  rw [run_dispatch]
  cases place : d.isLocal with
  | true => exact ⟨.inr ⟨d, weighed, place⟩, fun _ => trivial⟩
  | false => exact ⟨.inr ⟨d, weighed, place, rfl⟩, fun _ => trivial⟩

theorem chooseTarget_sited {α : Type} {f : PlacementDecision → FallibleRequest α}
    (rest : ∀ d past, Weighed profile service past d → (f d).run.Keeps (Sited profile service) past) :
    (chooseTarget profile service >>= f).run.Keeps (Sited profile service) past := by
  have scores : (score profile.id).Keeps (Sited profile service) past :=
    .of_only (score_looks profile.id) fun _ _ looks => .inl looks.harmless
  rw [run_bind, run_chooseTarget, andThen_assoc]
  refine scores.andThen_of_always (score_course profile.id) fun log own course => ?_
  obtain ⟨released, outcome, course, rfl⟩ := course
  refine ⟨.inl trivial, fun peers => ?_⟩
  change (onSuccess f (placed service (select ⟨profile.id, profile.address, valueOf (outcome.map Scoring.total)⟩
    peers))).Keeps (Sited profile service) _
  cases choice : placed service (select ⟨profile.id, profile.address, valueOf (outcome.map Scoring.total)⟩ peers) with
  | error e => exact keeps_done _
  | ok d => exact rest d _ ⟨past, log, [], released, outcome, peers, by simp, course, choice⟩

theorem invoke_sited (profile : Profile) (request : InvokeRequest) :
    (invoke profile request).run.Keeps (Sited profile request.serviceName) [] := by
  rw [invoke, run_bind]
  refine Keeps.andThen_of_only (admitted_looks ..) (fun _ _ looks => .inl looks.harmless) fun more admission => ?_
  cases admission with
  | error e => exact keeps_done _
  | ok executable =>
      refine chooseTarget_sited fun d past weighed => ?_
      rw [run_bind_pure]
      exact (dispatch_sited weighed _ _).andThen fun _ _ => keeps_done _

variable {u v w : Traffic} {before after front life : List (Traffic × Event)} {ticket : Nat} {now : Moment}
  {asked : Asked interface}

/-- An invocation that arrived after `front` read the peers in its lifetime, and `d` is the winner by a scoring of the
device right before and by the announcements that stood at that moment. -/
def Chose (profile : Profile) (service : String) (ticket : Nat) (front life : List (Traffic × Event))
    (d : PlacementDecision) : Prop :=
  ∃ early late x moment peers own log released outcome,
    life = early ++ (x, .acted ticket moment ⟨Step.access .peers, peers⟩) :: late ∧
    ownSteps ticket early = own ++ log ∧ Course profile.id released log outcome ∧
    Decides (Contends ⟨profile.id, profile.address, valueOf (outcome.map Scoring.total)⟩
      (PeerTable.Stands (PeerTable.history profile.id
        ((front ++ early).filterMap fun entry => entry.2.peerCall?)))) service (.ok d)

theorem Weighed.chose {d : PlacementDecision} (weighed : Weighed profile service (ownSteps ticket life) d)
    (run : Run profile .idle (front ++ life) w) : Chose profile service ticket front life d := by
  obtain ⟨own, log, late, released, outcome, peers, split, course, choice⟩ := weighed
  obtain ⟨early, _, rfl, scored, split⟩ := List.filterMap_eq_append_iff.1 split
  obtain ⟨between, ⟨x, e⟩, late, rfl, silent, read, -⟩ := List.filterMap_eq_cons_iff.1 split
  obtain ⟨moment, rfl⟩ := Event.eq_of_of? read
  have run : Run profile .idle (front ++ (early ++ between) ++
      (x, .acted ticket moment ⟨Step.access .peers, peers⟩) :: late) w := by simpa using run
  have shown : peers = (PeerTable.after profile.id
      ((front ++ (early ++ between)).filterMap fun entry => entry.2.peerCall?)).registry.snapshot :=
    run.access_answer.trans (congrArg (fun t => t.registry.snapshot) run.before.peers)
  refine ⟨early ++ between, late, x, moment, peers, own, log, released, outcome, by simp, ?_, course, ?_⟩
  · have nothing : ownSteps ticket between = [] := List.filterMap_eq_nil_iff.2 silent
    rw [ownSteps, List.filterMap_append, scored]
    exact (congrArg _ nothing).trans (List.append_nil _)
  · rw [← choice, shown]
    exact decides_after ..

/-- Whatever an invocation runs or forwards in any traffic goes where the choice says that it made in its lifetime. -/
theorem Run.dispatched (run : Run profile .idle (before ++ (v, .acted ticket now asked) :: after) w)
    (launched : ¬asked.step.Harmless) :
    ∃ front u task life, before = front ++ (u, .arrived ticket task) :: life ∧
      ∀ request, task = .invoke request →
        ∃ d, Chose profile request.serviceName ticket (front ++ [(u, .arrived ticket task)]) life d ∧
          asked.step.Goes d := by
  obtain ⟨front, u, task, life, rfl, follows⟩ := run.follows
  refine ⟨front, u, task, life, rfl, ?_⟩
  rintro request rfl
  have sited := (invoke_sited profile request).andThen fun past _ => keeps_done ()
  obtain harmless | ⟨d, weighed, goes⟩ := follows _ sited
  · exact absurd harmless launched
  · have arrived : Run profile .idle (front ++ [(u, .arrived ticket (.invoke request))] ++ life) v := by
      simpa using run.before
    exact ⟨d, weighed.chose arrived, goes⟩

end Emplace.Device
