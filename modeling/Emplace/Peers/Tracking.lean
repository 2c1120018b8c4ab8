import Emplace.Duration
import Emplace.Peers.Registry

namespace Emplace

structure PeerTable where
  lastSeen : Roster Nat
  registry : Registry
  deriving Inhabited

namespace PeerTable

def empty : PeerTable := ⟨.empty, .empty⟩

def observe (localId : String) (now : Moment) (a : Announcement) (t : PeerTable) :
    Bool × PeerTable :=
  if a.deviceId = localId then (false, t)
  else (true, ⟨t.lastSeen.insert a.deviceId now.elapsed, t.registry.announce now.stamp a⟩)

/-- Whether a clock set at `seen` has been silent for strictly longer than `window`. -/
def isSilent (now : Nat) (window : Duration) (seen : Nat) : Bool :=
  decide (window.nanos < now - seen)

def silent (now : Moment) (window : Duration) (t : PeerTable) : List String :=
  (t.lastSeen.filter fun _ seen => isSilent now.elapsed window seen).names

def expire (now : Moment) (window : Duration) (t : PeerTable) : List String × PeerTable :=
  let gone := t.silent now window
  (gone, ⟨gone.foldl Roster.erase t.lastSeen, gone.foldl Roster.erase t.registry⟩)

def forget (id : String) (t : PeerTable) : Bool × PeerTable :=
  let (found, registry) := t.registry.remove id
  (found, { t with registry := registry })

def tracked (t : PeerTable) : Nat := t.lastSeen.size

end PeerTable

end Emplace
