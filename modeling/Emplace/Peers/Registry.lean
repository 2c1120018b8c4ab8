import Emplace.Roster
import Emplace.Score

namespace Emplace

structure PeerEntry where
  deviceId : String
  address : String
  latestScore : DeviceScore
  registeredAt : UInt64
  deriving Repr, Inhabited

abbrev Registry := Roster PeerEntry

namespace Registry

/-- The entry of a device after an update: an entry that was there keeps its registration time. -/
def updatedEntry (known : Option PeerEntry) (now : UInt64) (id address : String)
    (score : DeviceScore) : PeerEntry :=
  match known with
  | some entry => { entry with address := address, latestScore := score }
  | none => ⟨id, address, score, now⟩

def update (r : Registry) (now : UInt64) (id address : String) (score : DeviceScore) : Registry :=
  r.insert id (updatedEntry (r.get? id) now id address score)

def announce (r : Registry) (now : UInt64) (a : Announcement) : Registry :=
  update r now a.deviceId a.address a.score

def remove (r : Registry) (id : String) : Bool × Registry := (r.contains id, r.erase id)

def snapshot (r : Registry) : List PeerEntry := r.values

def addressOf? (r : Registry) (id : String) : Option String := (r.get? id).map PeerEntry.address

theorem get?_update (r : Registry) (now : UInt64) (id address : String) (score : DeviceScore)
    (other : String) :
    (update r now id address score).get? other =
      if other = id then some (updatedEntry (r.get? id) now id address score) else r.get? other :=
  Roster.get?_insert ..

theorem get?_remove (r : Registry) (id other : String) :
    (remove r id).2.get? other = if other = id then none else r.get? other :=
  Roster.get?_erase ..

end Registry

end Emplace
