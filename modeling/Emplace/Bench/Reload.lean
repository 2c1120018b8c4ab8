import Emplace.Bench.Fleet
import Emplace.Device.Reload

namespace Emplace.Bench

structure Due where
  time : Nat
  path : String
  change : Files.Change
  deriving Inhabited

structure Reloading where
  fleet : Fleet
  files : Files.Disk
  applied : Device.Applied
  deriving Inhabited

namespace Reloading

def request (r : Reloading) (q : Request α) : α × Reloading :=
  let (a, fleet) := (Play.request 0 q).run r.fleet
  (a, { r with fleet := fleet })

def reload (r : Reloading) (path : String) : Except Files.WalkError Nat × Reloading :=
  let ((outcome, applied), r) :=
    r.request (Device.reload r.applied (Files.loadServices r.files path))
  (outcome, { r with applied := applied })

def renewed (r : Reloading) : Reloading := { r with applied := .empty }

def put (r : Reloading) (path : String) (change : Files.Change) : Reloading :=
  { r with files := r.files.change path change }

def putDue (time : Nat) (r : Reloading) (due : List Due) : Reloading × List Due :=
  let (before, after) := due.partition fun d => d.time ≤ time
  (before.foldl (fun r d => r.put d.path d.change) r, after)

def run (r : Reloading) (path : String) (interval stop : Nat) (due : List Due) : Reloading :=
  let scan (time : Nat) (state : Reloading × List Due) : Nat × (Reloading × List Due) :=
    let (r, due) := putDue time state.1 state.2
    (time, ((r.reload path).2, due))
  let (r', due) := Exchange.rounds false scan interval stop (scan 0 (r.renewed, due)).2
  { (putDue stop r' due).1 with applied := r.applied }

end Reloading

end Emplace.Bench
