import Emplace.Invocation
import Emplace.Peers.Registry

namespace Emplace

structure Candidate where
  deviceId : String
  address : String
  score : Float
  deriving Repr, Inhabited

structure Leader where
  decision : PlacementDecision
  score : Float
  deriving Repr, Inhabited

namespace Placement

def start (own : Candidate) : Option Leader :=
  if isUsable own.score then some ⟨⟨own.deviceId, own.address, true⟩, own.score⟩ else none

def competes (localId : String) (peer : PeerEntry) : Bool :=
  peer.deviceId != localId && peer.latestScore.isUsable

def beats (score : Float) : Option Leader → Bool
  | none => true
  | some leader => decide (leader.score < score)

def challenge (localId : String) (best : Option Leader) (peer : PeerEntry) : Option Leader :=
  if competes localId peer && beats peer.latestScore.score best then
    some ⟨⟨peer.deviceId, peer.address, false⟩, peer.latestScore.score⟩
  else best

def select (own : Candidate) (peers : List PeerEntry) : Option PlacementDecision :=
  (peers.foldl (challenge own.deviceId) (start own)).map Leader.decision

end Placement

end Emplace
