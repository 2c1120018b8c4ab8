import Emplace.Bench.Script
import Emplace.Device.Exchange
import Emplace.Device.Invoke
import Emplace.Http.Client
import Emplace.Http.Lookup

/-!
# Fleets on the bench

Several devices with scripted capabilities, one clock, and a log of every call. An execution that is forwarded to
an address without a route goes to the first device of that address, which answers it as a peer would: sealed
bytes arrive, the device carries them out, and its sealed answer or the text of its failure goes back.
-/

namespace Emplace.Bench

inductive Reading
  | figure (metric : Metric)
  | release
  deriving DecidableEq, Repr, Inhabited

structure Log where
  readings : List Reading
  ran : List (String × List String)
  sent : List (String × RemoteExecution)
  deriving Inhabited

def Log.empty : Log := ⟨[], [], []⟩

structure Rig where
  profile : Profile
  gauges : Gauges
  runner : Runner
  routes : Routes
  tables : Tables
  log : Log
  deriving Inhabited

def Rig.fresh (profile : Profile) (gauges : Gauges) (runner : Runner) (routes : Routes) : Rig :=
  ⟨profile, gauges, runner, routes, .empty, .empty⟩

/-- How devices reach their peers: by the routes of their scripts and then each other, or over a network that
reaches nobody, where the listed addresses need no name service. -/
inductive Reach
  | routes
  | nowhere (known : List String)
  deriving Inhabited

structure Fleet where
  rigs : List Rig
  reach : Reach
  elapsed : Nat
  drawn : Nat
  deriving Inhabited

namespace Fleet

def startStamp : Nat := 1700000000000

def ofRigs (rigs : List Rig) (reach : Reach) : Fleet := ⟨rigs, reach, 0, 0⟩

def rig (f : Fleet) (i : Nat) : Rig := f.rigs.getD i default

def now (f : Fleet) : Moment := ⟨f.elapsed, UInt64.ofNat (startStamp + f.elapsed / 1000000)⟩

def after (d : Duration) (f : Fleet) : Fleet := { f with elapsed := f.elapsed + d.nanos }

def change (i : Nat) (g : Rig → Rig) (f : Fleet) : Fleet := { f with rigs := f.rigs.modify i g }

def find? (f : Fleet) (address : String) : Option Nat :=
  f.rigs.findIdx? fun rig => rig.profile.address == address

def cleared (f : Fleet) : Fleet := { f with rigs := f.rigs.map fun rig => { rig with log := .empty } }

end Fleet

abbrev Play (α : Type) := StateM Fleet α

namespace Play

def accessTime : Duration := ⟨1000⟩

def note (i : Nat) (add : Log → Log) : Play Unit :=
  modify (·.change i fun rig => { rig with log := add rig.log })

def nonce : Play Gcm.Nonce := do
  let f ← get
  set { f with drawn := f.drawn + 1 }
  return ⟨Sha256.bytesOfNat 12 f.drawn, by simp [Sha256.bytesOfNat]⟩

def access (i : Nat) (a : Access) : Play a.Answer := do
  let f ← get
  let (answer, tables) := (f.rig i).tables.apply (f.rig i).profile.id f.now a
  set ((f.change i fun rig => { rig with tables := tables }).after accessTime)
  return answer

def sample (i : Nat) (metric : Metric) : Play (Except TelemetryError Float) := do
  note i fun log => { log with readings := log.readings ++ [.figure metric] }
  return ((← get).rig i).gauges.read metric

def execute (i : Nat) (executable : String) (args : List String) :
    Play (Except DispatchError ExecutionOutput) := do
  let runner := ((← get).rig i).runner
  match runner with
  | .processes => pure ()
  | _ => note i fun log => { log with ran := log.ran ++ [(executable, args)] }
  return runner.run executable args

def nobody (address : String) : Delivery :=
  ⟨some ⟨0⟩, .error (.connect address (.described "nobody there"))⟩

def unreachable (reach : Reach) (address : String) : Http.Attempt :=
  let known := match reach with
    | .routes => []
    | .nowhere known => known
  .refused (Http.unreachable known.contains address)

def answer (send : String → RemoteExecution → Cipher → Play Delivery) (i : Nat) :
    (step : Device.Step) → Play step.Answer
  | .access a => access i a
  | .call (.sample metric) => sample i metric
  | .call .release => note i fun log => { log with readings := log.readings ++ [.release] }
  | .call .stamp => do return (← get).now.stamp
  | .call .nonce => nonce
  | .call (.execute executable args) => execute i executable args
  | .call (.send address payload cipher) => send address payload cipher
  | .call (.announce seed _) => do return unreachable (← get).reach seed

def alone (i : Nat) (request : Request α) : Play α :=
  request.run (answer (fun address _ _ => return nobody address) i)

def answered : Except Failure Bytes → Http.Attempt
  | .ok reply => .answered 200 reply
  | .error e => .answered e.status (Text.bytesOf e.text)

def post (i : Nat) (body : Bytes) : Play Http.Attempt := do
  return answered (← alone i (Device.executeRemote ((← get).rig i).profile body).run)

def send (i : Nat) (address : String) (payload : RemoteExecution) (cipher : Cipher) :
    Play Delivery := do
  let f ← get
  match f.reach with
  | .nowhere _ =>
    Http.forward cipher (← nonce) (fun _ => return (⟨0⟩, unreachable f.reach address)) address
      payload
  | .routes =>
    note i fun log => { log with sent := log.sent ++ [(address, payload)] }
    match (f.rig i).routes.lookup address, f.find? address with
    | some delivery, _ => return delivery
    | none, some receiver =>
      Http.forward cipher (← nonce) (fun body => return (⟨0⟩, ← post receiver body)) address
        payload
    | none, none => return nobody address

def request (i : Nat) (r : Request α) : Play α := r.run (answer (send i) i)

end Play

end Emplace.Bench
