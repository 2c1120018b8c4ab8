namespace Emplace

def isUsable (score : Float) : Bool := score.isFinite && decide (0 < score)

structure DeviceScore where
  deviceId : String
  score : Float
  observedAt : UInt64
  deriving Repr, Inhabited

def DeviceScore.isUsable (s : DeviceScore) : Bool := Emplace.isUsable s.score

structure Announcement where
  deviceId : String
  address : String
  score : DeviceScore
  deriving Repr, Inhabited

/-- A length of time since a fixed start, which never runs backwards, and the calendar time in
milliseconds. -/
structure Moment where
  elapsed : Nat
  stamp : UInt64
  deriving DecidableEq, Repr, Inhabited

end Emplace
