import Emplace.Admission.Commands
import Emplace.Admission.Requesters
import Emplace.Peers.Tracking

/-!
# Tables of a device

All state that a device keeps between requests: what may run, who may ask, which peers it tracks, and
whether its telemetry was released. Every access to a table is one atomic step; `Tables.apply` says what it
does.
-/

namespace Emplace

structure Tables where
  commands : Admission.Commands
  allowLists : Admission.AllowLists
  peers : PeerTable
  closed : Bool
  deriving Inhabited

def Tables.empty : Tables := ⟨.empty, .empty, .empty, false⟩

inductive Access
  | allowList (service : String)
  | command (service : String)
  | setCommand (service executable : String)
  | setAllowList (service : String) (requesters : List String)
  /-- Takes in an announcement; the answer says whether it was another device's. -/
  | observe (a : Announcement)
  | expire (window : Duration)
  | peers
  | isClosed
  | close

abbrev Access.Answer : Access → Type
  | .allowList _ => Option (List String)
  | .command _ => Option String
  | .setCommand .. => Unit
  | .setAllowList .. => Unit
  | .observe _ => Bool
  | .expire _ => List String
  | .peers => List PeerEntry
  | .isClosed => Bool
  | .close => Bool

def Tables.apply (localId : String) (now : Moment) (t : Tables) :
    (access : Access) → access.Answer × Tables
  | .allowList service => (t.allowLists.get? service, t)
  | .command service => (t.commands.get? service, t)
  | .setCommand service executable =>
    ((), { t with commands := t.commands.insert service executable })
  | .setAllowList service requesters =>
    ((), { t with allowLists := t.allowLists.store service requesters })
  | .observe a =>
    let (known, peers) := t.peers.observe localId now a
    (known, { t with peers := peers })
  | .expire window =>
    let (gone, peers) := t.peers.expire now window
    (gone, { t with peers := peers })
  | .peers => (t.peers.registry.snapshot, t)
  | .isClosed => (t.closed, t)
  | .close => (t.closed, { t with closed := true })

end Emplace
