import Emplace.Device.Profile
import Emplace.Device.Scoring

/-!
# Exchange of scores

Each round a device scores itself, publishes the score, and expires the peers that fell silent, in this order
and whether or not the score was published. How scores are published and who is alive is left to what the
rounds run on; a device publishes by announcing itself to every seed.
-/

namespace Emplace

structure Unpublished where
  tried : Nat
  deriving DecidableEq, Repr, Inhabited

def Unpublished.text (e : Unpublished) : String :=
  s!"no seed accepted the announcement ({e.tried} tried)"

namespace Exchange

inductive Step
  | score (target : String)
  | stamp
  | publish (score : DeviceScore)
  | expire (window : Duration)

abbrev Step.Answer : Step → Type
  | .score _ => Float
  | .stamp => UInt64
  | .publish _ => Except Unpublished Unit
  | .expire _ => List String

abbrev interface : Interface := ⟨Step, Step.Answer⟩

abbrev Round (α : Type) := Procedure interface α

def Round.step (s : Step) : Round s.Answer := Procedure.step (I := interface) s

def publish (score : DeviceScore) : Round Unit := do
  let _ ← Round.step (.publish score)
  return ()

def publishOnce (id : String) : Round Float := do
  let value ← Round.step (.score id)
  let stamp ← Round.step .stamp
  publish ⟨id, value, stamp⟩
  return value

def tick (id : String) (window : Duration) : Round Unit := do
  let _ ← publishOnce id
  let _ ← Round.step (.expire window)
  return ()

/-- Whether a round is played that is due at `start`: before `stop` it is, and after it it is not. At `stop` itself
timer and stop race, and `tie` says whether the timer wins. -/
def isPlayed (tie : Bool) (stop start : Nat) : Bool := decide (start < stop) || (tie && start == stop)

/-- Rounds that start `interval` after the start and after the end of the round before, until `stop`: `round`
plays one that starts at a given time and says when it ended. At most `bound` rounds are played. -/
def roundsWithin (tie : Bool) (round : Nat → σ → Nat × σ) (interval stop : Nat) : Nat → Nat → σ → σ
  | 0, _, state => state
  | bound + 1, now, state =>
    let start := now + interval
    if isPlayed tie stop start then
      let (ended, state) := round start state
      roundsWithin tie round interval stop bound ended state
    else state

def rounds (tie : Bool) (round : Nat → σ → Nat × σ) (interval stop : Nat) (state : σ) : σ :=
  roundsWithin tie round interval stop (stop + 1) 0 state

end Exchange

namespace Device

/-- What publishing came to when `failed` of `tried` seeds did not take the announcement. -/
def publication (tried failed : Nat) : Except Unpublished Unit :=
  if 0 < failed ∧ failed = tried then .error ⟨failed⟩ else .ok ()

def publish (profile : Profile) (score : DeviceScore) : Request (Except Unpublished Unit) := do
  let announcement := ⟨profile.id, profile.address, score⟩
  let attempts ← profile.seeds.mapM fun seed => Request.call (.announce seed announcement)
  return publication profile.seeds.length (attempts.countP fun a => !a.succeeded)

def exchangeStep (profile : Profile) : (s : Exchange.Step) → Request s.Answer
  | .score target => score target
  | .stamp => Request.call .stamp
  | .publish score => publish profile score
  | .expire window => Request.access (.expire window)

def observe (a : Announcement) : Request Bool := Request.access (.observe a)

def peers : Request (List PeerEntry) := Request.access .peers

end Device

end Emplace
