import Emplace.Proofs.Device.Traffic
import Emplace.Proofs.Placement.Selection
import Emplace.Proofs.Procedure.Play

/-!
# Placement follows what was announced

A device places an invocation by its own score at that moment and by the announcements that stand: for each other device
the last that was taken in, unless its expiry followed. The outcome is exactly the winner of those with usable scores
(`Scene.followsAnnouncements`), also in traffic, where the peers are what the calls so far left (`Run.peers`).
-/

namespace Emplace

open Procedure Placement PeerTable

def Surroundings.withPeers (world : Surroundings Device.interface) (t : PeerTable) : Surroundings Device.interface
  | _, .access .peers => t.registry.snapshot
  | past, s => world past s

namespace Device

theorem run_chooseTarget (profile : Profile) (service : String) :
    (chooseTarget profile service).run = (score profile.id).andThen fun own =>
      ask (Step.access .peers) fun peers => done (placed service (select ⟨profile.id, profile.address, own⟩ peers)) := by
  rw [chooseTarget, run_bind, FallibleRequest.run_certain, andThen_assoc]
  refine congrArg (andThen _) (funext fun own => ?_)
  refine congrArg (@ask interface _ (Step.access .peers)) (funext fun peers => ?_)
  simp only [done_andThen, Function.comp, ExceptT.bindCont]
  generalize select ⟨profile.id, profile.address, own⟩ peers = choice
  cases choice <;> rfl

theorem plays_chooseTarget (world : Surroundings interface) (past : List (Asked interface)) (profile : Profile)
    (service : String) :
    Plays world past (chooseTarget profile service).run
      ((score profile.id).transcript world past ++
        [world.asked (past ++ (score profile.id).transcript world past) (Step.access .peers)])
      (placed service (select ⟨profile.id, profile.address, (score profile.id).result world past⟩
        (world (past ++ (score profile.id).transcript world past) (Step.access .peers)))) := by
  rw [run_chooseTarget]
  exact Plays.andThen ⟨rfl, rfl⟩ ⟨rfl, rfl⟩

theorem result_chooseTarget (world : Surroundings interface) (past : List (Asked interface)) (profile : Profile)
    (service : String) :
    (chooseTarget profile service).run.result world past =
      placed service (select ⟨profile.id, profile.address, (score profile.id).result world past⟩
        (world (past ++ (score profile.id).transcript world past) (Step.access .peers))) :=
  (plays_chooseTarget world past profile service).2

theorem decides_after (localId : String) (calls : List (Moment × PeerTable.Call)) (own : Candidate) (service : String) :
    Decides (Contends own (Stands (history localId calls))) service
      (placed service (select own (after localId calls).registry.snapshot)) := by
  have listed : Listed (after localId calls).registry.snapshot = Stands (history localId calls) :=
    funext fun a => propext stands_iff.symm
  rw [← listed]
  exact placed_select own service (snapshot_ascending ..)

structure Scene where
  profile : Profile
  /-- What its table of peers went through since it was empty. -/
  calls : List (Moment × PeerTable.Call)
  world : Surroundings interface
  past : List (Asked interface)

namespace Scene

def history (scene : Scene) : List PeerTable.Event := PeerTable.history scene.profile.id scene.calls

def surroundings (scene : Scene) : Surroundings interface :=
  scene.world.withPeers (after scene.profile.id scene.calls)

def ownScore (scene : Scene) : Float := (score scene.profile.id).result scene.surroundings scene.past

def decided (scene : Scene) (service : String) : Except Failure PlacementDecision :=
  (chooseTarget scene.profile service).run.result scene.surroundings scene.past

/-- The device itself and the devices whose announcements stand, as far as their scores are usable. -/
def Candidates (scene : Scene) : Leader → Prop :=
  Contends ⟨scene.profile.id, scene.profile.address, scene.ownScore⟩ (Stands scene.history)

theorem decides (scene : Scene) (service : String) : Decides scene.Candidates service (scene.decided service) := by
  rw [decided, result_chooseTarget]
  exact decides_after ..

theorem decided_eq_iff {scene : Scene} {service : String} {outcome : Except Failure PlacementDecision} :
    scene.decided service = outcome ↔ Decides scene.Candidates service outcome := by
  constructor
  · rintro rfl
    exact scene.decides service
  · exact (scene.decides service).unique fun _ _ => Stands.unique

theorem of_decided {scene : Scene} {service : String} {d : PlacementDecision}
    (decided : scene.decided service = .ok d) :
    d = ⟨scene.profile.id, scene.profile.address, true⟩ ∨
      ∃ a, Stands scene.history a ∧ a.deviceId ≠ scene.profile.id ∧ a.score.isUsable = true ∧
        d = ⟨a.deviceId, a.address, false⟩ := by
  cases decided_eq_iff.1 decided with
  | chosen wins =>
      cases wins.contends with
      | own => exact .inl rfl
      | peer stands other usable => exact .inr ⟨_, stands, other, usable, rfl⟩

structure FollowsAnnouncements (scene : Scene) : Prop where
  outcome : ∀ service outcome, scene.decided service = outcome ↔ Decides scene.Candidates service outcome
  taken : ∀ before now a later, scene.calls = before ++ (now, PeerTable.Call.observe a) :: later →
    (Stands (PeerTable.history scene.profile.id (before ++ [(now, .observe a)])) a ↔ a.deviceId ≠ scene.profile.id)
  /-- A request that reads the peers after these calls, in any traffic, chooses as the scene does. -/
  traffic : ∀ front v ticket now peers back w,
    Run scene.profile .idle (front ++ (v, .acted ticket now ⟨Step.access .peers, peers⟩) :: back) w →
    front.filterMap (fun entry => entry.2.peerCall?) = scene.calls → ∀ service,
      placed service (select ⟨scene.profile.id, scene.profile.address, scene.ownScore⟩ peers) = scene.decided service
  /-- Without a usable score, and until it announces one, another device is not chosen. -/
  barred : ∀ before later, scene.calls = before ++ later → ∀ id, id ≠ scene.profile.id →
    (∀ a, Stands (PeerTable.history scene.profile.id before) a → a.deviceId = id → a.score.isUsable = false) →
    (∀ now a, (now, PeerTable.Call.observe a) ∈ later → a.deviceId = id → a.score.isUsable = false) →
    ∀ service d, scene.decided service = .ok d → d.targetDeviceId ≠ id
  determined : ∀ other : Scene, other.profile = scene.profile → other.ownScore = scene.ownScore →
    (∀ id, (standing id other.history).map Prod.snd = (standing id scene.history).map Prod.snd) →
    ∀ service, other.decided service = scene.decided service

theorem followsAnnouncements (scene : Scene) : FollowsAnnouncements scene where
  outcome service outcome := decided_eq_iff
  taken before now a later _ := stands_observed_iff
  traffic front v ticket now peers back w run calls service := by
    have tables : v.tables.peers = after scene.profile.id scene.calls := calls ▸ run.before.peers
    rw [run.access_answer, decided, result_chooseTarget]
    change placed service (select _ v.tables.peers.registry.snapshot) = _
    rw [tables]
    rfl
  barred before later split id other unusable silent service d decided := by
    rintro rfl
    obtain rfl | ⟨a, stands, -, usable, rfl⟩ := of_decided decided
    · exact other rfl
    · rw [history, split] at stands
      have refused : a.score.isUsable = false := by
        obtain stood | ⟨now, observed⟩ := stands_append stands
        · exact unusable a stood rfl
        · exact silent now a observed rfl
      cases usable.symm.trans refused
  determined other same score agree service := by
    have stands : Stands other.history = Stands scene.history := by
      funext a
      rw [Stands, Stands, agree a.deviceId]
    rw [decided_eq_iff, Candidates, same, score, stands]
    exact scene.decides service

end Scene

def steady (gauge : Except TelemetryError Float) : Surroundings interface
  | _, .access a => (Tables.empty.apply "" ⟨0, 0⟩ a).1
  | _, .call (.sample _) => gauge
  | _, .call .release => ()
  | _, .call .stamp => (0 : UInt64)
  | _, .call .nonce => (⟨List.replicate 12 0, rfl⟩ : Gcm.Nonce)
  | _, .call (.execute ..) => (.error (.http "request") : Except DispatchError ExecutionOutput)
  | _, .call (.send ..) => ⟨none, .error (.http "request")⟩
  | _, .call (.announce ..) => .silent

example :
    Scene.decided
      { profile := ⟨"a", "a:80", .passThrough, ⟨1⟩, []⟩
        calls := [(⟨0, 0⟩, .observe ⟨"c", "c:80", ⟨"c", 1.0, 0⟩⟩), (⟨1, 0⟩, .observe ⟨"b", "b:80", ⟨"b", 1.0, 0⟩⟩)]
        world := steady (.error (.unavailable "off"))
        past := [] } "weather" = .ok ⟨"b", "b:80", false⟩ := by rfl

end Device

end Emplace
