import Emplace.Bench.Fleet

namespace Emplace.Bench

structure Recorder where
  fails : Bool
  expired : List String
  deriving DecidableEq, Repr, Inhabited

inductive Event
  | publish (score : DeviceScore)
  | expire (window : Duration)
  deriving Inhabited

namespace Recorder

def answer (r : Recorder) (i : Nat) : (s : Exchange.Step) → StateT (List Event) Play s.Answer
  | .score target => Play.request i (Device.score target)
  | .stamp => Play.request i (Request.call .stamp)
  | .publish score => do
    modify (· ++ [.publish score])
    return if r.fails then .error ⟨0⟩ else .ok ()
  | .expire window => do
    modify (· ++ [.expire window])
    return r.expired

def play (r : Recorder) (i : Nat) (round : Exchange.Round α) : Play (α × List Event) :=
  (round.run (r.answer i)).run []

/-- Plays all rounds that start before `stop`, with the events they made. Rounds take no time, and none is played that
is due at `stop` itself. -/
def rounds (r : Recorder) (i : Nat) (id : String) (window : Duration) (interval stop : Nat) :
    Play (List Event) := do
  let (events, f) := Exchange.rounds false
    (fun start (events, f) =>
      let ((_, more), f) := (r.play i (Exchange.tick id window)).run f
      (start, (events ++ more, f)))
    interval stop ([], ← get)
  set f
  return events

end Recorder

end Emplace.Bench
