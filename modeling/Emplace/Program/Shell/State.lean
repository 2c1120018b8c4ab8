import Emplace.Program.Finished
import Emplace.Program.Shell.Script
import Emplace.Program.Shell.Signal

/-!
# The state of a shell

Parameters, what was printed so far, and where streams lead. Outputs gather in buffers: the first two are the outputs
of the shell itself, the others hold what is printed into a pipe or into a word. Inputs are sources that all who read
from them share.
-/

namespace Emplace.Program.Shell

inductive Channel
  | buffer (index : Nat)
  | file (path : String)
  | source (index : Nat)
  | nothing
  deriving DecidableEq, Repr, Inhabited

structure Source where
  bytes : Bytes
  isFile : Bool
  deriving DecidableEq, Repr, Inhabited

inductive Jump
  | exit
  | killed (signal : Nat)
  | leave (loops : Nat)
  | next (loops : Nat)
  | returned
  | refused
  deriving DecidableEq, Repr, Inhabited

structure Deadline where
  time : Nat
  signal : Nat
  isShared : Bool
  deriving DecidableEq, Repr, Inhabited

structure Job where
  index : Nat
  number : String
  began : Nat
  ends : Nat
  outcome : Option Ending
  isNoticed : Bool
  isAwaited : Bool
  signals : List Deadline
  script : Script
  line : Nat
  bindings : List (String × String)
  positional : List String
  streams : List (Nat × Channel)
  isOwn : Bool
  deriving Inhabited

structure OptionPlace where
  argument : Nat
  letter : Nat
  deriving DecidableEq, Repr, Inhabited

inductive Kept
  | variable (name : String) (value : Option String) (isExported isFixed : Bool)
  | options (letters : List Char)
  deriving DecidableEq, Repr, Inhabited

structure Limit where
  soft : Option Nat
  hard : Option Nat
  deriving DecidableEq, Repr, Inhabited

structure State where
  name : String
  number : String
  outer : List String := []
  positional : List String := []
  bindings : List (String × String) := []
  exported : List String := []
  fixed : List String := []
  functions : List (String × Script) := []
  aliases : List (String × String) := []
  traps : List (Nat × String) := []
  options : List Char := []
  mask : Nat := 18
  limits : List (Char × Limit) := []
  found : List (String × String) := []
  stale : List String := []
  optionPlace : OptionPlace := ⟨1, 0⟩
  tested : Bool := false
  inner : Bool := false
  /-- The command in whose name the shell speaks. -/
  speaker : Option String := none
  loops : Nat := 0
  calls : Nat := 0
  /-- What the function has to give back when it ends. -/
  shadowed : Option (List Kept) := none
  jobs : List Job := []
  latest : Option String := none
  started : Nat := 0
  answer : Option Nat := none
  status : Nat := 0
  line : Nat := 1
  clock : Nat := 0
  deadlines : List Deadline := []
  expired : Option Nat := none
  niceness : Int := 0
  turnLimit : Nat := 1000000
  sources : List Source := []
  buffers : List (List Bytes) := [[], []]
  streams : List (Nat × Channel) := [(0, .nothing), (1, .buffer 0), (2, .buffer 1)]
  disk : Files.Disk
  here : String
  jump : Option Jump := none
  /-- Signals to the shell that came and were not yet answered. -/
  pending : List Nat := []
  sent : List (String × Nat) := []
  /-- Signals to this very part of the shell that came and were not yet answered. -/
  arrived : List Nat := []
  deriving Inhabited

namespace State

def contentOf (s : State) (index : Nat) : Bytes := ((s.buffers[index]?).getD []).reverse.flatten

def put (s : State) (channel : Channel) (bytes : Bytes) : State :=
  match channel with
  | .buffer i => { s with buffers := s.buffers.modify i (bytes :: ·) }
  | .file path =>
    let before := (s.disk.read path).toOption.getD []
    { s with disk := (s.disk.write path (before ++ bytes)).toOption.getD s.disk }
  | .source _ | .nothing => s

def putInto (s : State) (stream : Nat) (bytes : Bytes) : State :=
  if bytes.isEmpty then s else s.put ((s.streams.lookup stream).getD .nothing) bytes

def lead (s : State) (stream : Nat) (channel : Channel) : State :=
  { s with streams := (stream, channel) :: s.streams.filter (·.1 != stream) }

def close (s : State) (stream : Nat) : State := { s with streams := s.streams.filter (·.1 != stream) }

def leadToSource (s : State) (stream : Nat) (source : Source) : State :=
  { s with sources := s.sources ++ [source] }.lead stream (.source s.sources.length)

def sourceOf (s : State) (stream : Nat) : Source :=
  match s.streams.lookup stream with
  | some (.source i) => (s.sources[i]?).getD ⟨[], false⟩
  | _ => ⟨[], false⟩

def withRest (s : State) (stream : Nat) (rest : Bytes) : State :=
  match s.streams.lookup stream with
  | some (.source i) => { s with sources := s.sources.modify i fun source => { source with bytes := rest } }
  | _ => s

def print (s : State) (bytes : Bytes) : State := s.putInto 1 bytes

def printLine (s : State) (text : String) : State := s.print (Raw.bytes (text ++ "\n"))

def sayPlainly (s : State) (text : String) : State := s.putInto 2 (Raw.bytes (text ++ "\n"))

def say (s : State) (message : String) : State :=
  let speaker := (s.speaker.map (· ++ ": ")).getD ""
  s.sayPlainly s!"{s.name}: {s.line}: {speaker}{message}"

def withStatus (s : State) (status : Nat) : State := { s with status := status }

def succeed (s : State) : State := s.withStatus 0

def complain (s : State) (message : String) (status : Nat) : State := (s.say message).withStatus status

def giveUp (s : State) (message : String) (status : Nat) : State :=
  { s.complain message status with jump := some .exit }

def refuse (s : State) (message : String) (status : Nat) : State :=
  { s.complain message status with jump := some .refused }

def isOn (s : State) (letter : Char) : Bool := s.options.contains letter

def optionNames : List (String × Char) :=
  [("errexit", 'e'), ("noglob", 'f'), ("ignoreeof", 'I'), ("interactive", 'i'), ("monitor", 'm'), ("noexec", 'n'),
    ("stdin", 's'), ("xtrace", 'x'), ("verbose", 'v'), ("vi", 'V'), ("emacs", 'E'), ("noclobber", 'C'),
    ("allexport", 'a'), ("notify", 'b'), ("nounset", 'u'), ("privileged", 'p'), ("nolog", '\x01'), ("debug", '\x02')]

def switches (s : State) : String :=
  String.ofList (((optionNames.map Prod.snd).filter fun c => 32 < c.toNat && s.isOn c).reverse)

def value? (s : State) (name : String) : Option String :=
  match name with
  | "$" => some s.number
  | "?" => some (toString s.status)
  | "#" => some (toString s.positional.length)
  | "0" => some s.name
  | "-" => some s.switches
  | "!" => s.latest
  | "@" | "*" => if s.positional.isEmpty then none else some (" ".intercalate s.positional)
  | _ =>
    match Text.digits? name.toList with
    | some n => s.positional[n - 1]?
    | none => s.bindings.lookup name

def heeded (s : State) (name value : String) : State :=
  if name = "OPTIND" then { s with optionPlace := ⟨max 1 ((Text.digits? value.toList).getD 1), 0⟩ }
  else if name = "PATH" then { s with found := [], stale := [] }
  else s

def bound (name value : String) (bindings : List (String × String)) : List (String × String) :=
  if bindings.any fun b => b.1 = name then bindings.map fun b => if b.1 = name then (name, value) else b
  else (name, value) :: bindings

def setVariable (s : State) (name value : String) : State :=
  { s with
    bindings := bound name value s.bindings
    exported := if s.isOn 'a' && !s.exported.contains name then name :: s.exported else s.exported }

def assign (s : State) (name value : String) : State :=
  if s.fixed.contains name then s.refuse s!"{name}: is read only" 2
  else if name = "OPTIND" && (Text.digits? value.toList).isNone then
    (s.setVariable name value).refuse s!"Illegal number: {value}" 2
  else (s.setVariable name value).heeded name value

def unassign (s : State) (name : String) : State :=
  if s.fixed.contains name then s.refuse s!"{name}: is read only" 2
  else if name = "OPTIND" then s.refuse "Illegal number: " 2
  else
    { s with
      bindings := s.bindings.filter (·.1 != name)
      exported := s.exported.filter (· != name) }.heeded name ""

def restore (s : State) (kept : Kept) : State :=
  match kept with
  | .options letters => { s with options := letters }
  | .variable name value isExported isFixed =>
    let listed (names : List String) (isIn : Bool) : List String :=
      (if isIn then [name] else []) ++ names.filter (· != name)
    { s with
      bindings := match value with
        | some text => bound name text s.bindings
        | none => s.bindings.filter (·.1 != name)
      exported := listed s.exported isExported
      fixed := listed s.fixed isFixed }.heeded name (value.getD "")

def keep (s : State) (name : String) : Kept :=
  .variable name (s.bindings.lookup name) (s.exported.contains name) (s.fixed.contains name)

def chains : Nat := 39

def chainOf (name : String) : Nat :=
  let codes := name.toList.map Char.toNat
  (codes.headD 0 * 16 + codes.foldl (· + ·) 0) % chains

def environment (s : State) : List (String × String) :=
  let given := (s.bindings.filter fun (name, _) => s.exported.contains name).reverse
  (List.range chains).flatMap fun chain => given.filter fun (name, _) => chainOf name = chain

def folders (s : State) : List String := ((s.bindings.lookup "PATH").getD "").splitOn ":"

def placePath (s : State) : String := Raw.ofText ("/" ++ "/".intercalate s.disk.working)

def capturing (s : State) (part : State → State) : State × Bytes :=
  let index := s.buffers.length
  let after := part ({ s with buffers := s.buffers ++ [[]] }.lead 1 (.buffer index))
  ({ after with buffers := after.buffers.take index, streams := s.streams }, after.contentOf index)

def mourn (s : State) (signal : Nat) : State :=
  let s := s.withStatus (Signal.status signal)
  match Signal.obituary signal with
  | some text => s.sayPlainly text
  | none => s

def notice (s : State) (signal : Nat) : State :=
  let s := { s with expired := some signal }
  match if signal = Signal.kill then none else s.traps.lookup signal with
  | some "" => s
  | some _ => { s with arrived := s.arrived ++ [signal] }
  | none => if Signal.isOutlived signal || s.jump.isSome then s else { s with jump := some (.killed signal) }

/-- Runs a part of the shell by itself: all that it leaves are its outputs, its status, its changes of files, what it
did not read, the signals that it sent, the time it took and what it did not wait for. -/
def apart (s : State) (part : State → State) : State :=
  let others := { s with
    inner := true, traps := s.traps.filter (·.2 = ""), expired := none, arrived := []
    jobs := s.jobs.map fun j => { j with isOwn := false } }
  let after := part others
  let owned := (s.jobs.filter Job.isOwn).map Job.number
  let s := { s with status := after.status % 256, buffers := after.buffers, sources := after.sources,
                    disk := { s.disk with root := after.disk.root }, pending := after.pending, sent := after.sent,
                    clock := after.clock, deadlines := after.deadlines, started := after.started
                    jobs := after.jobs.map fun j => { j with isOwn := owned.contains j.number } }
  let s := match after.expired with
    | some signal => s.notice signal
    | none => s
  match after.jump with
  | some (.killed signal) => if s.jump.isSome then s else s.mourn signal
  | _ => s

def checked (s : State) : State :=
  if s.isOn 'e' && !s.tested && s.status ≠ 0 && s.jump.isNone then { s with jump := some .exit } else s

def asking (s : State) (part : State → State) : State :=
  { part { s with tested := true } with tested := s.tested }

def receive (s : State) (signal : Nat) : State :=
  match if signal = Signal.kill then none else s.traps.lookup signal with
  | some "" => s
  | some _ => { s with pending := s.pending ++ [signal] }
  | none =>
    if Signal.isOutlived signal then s
    else if s.inner then { s with pending := s.pending ++ [signal] }
    else { s with jump := some (.killed signal) }

def ignores (s : State) (signal : Nat) : Bool :=
  signal ≠ Signal.kill && s.traps.lookup signal = some "" || Signal.isOutlived signal

/-- Lets time pass up to a moment; the first signal that comes before and is not ignored cuts it short, unless it comes
to the shell alone and a trap answers it later. Tells which. -/
def passUntil (moment : Nat) : List Deadline → State → State × Option Nat
  | [], s => ({ s with clock := moment, deadlines := [] }, none)
  | d :: rest, s =>
    if moment ≤ d.time then ({ s with clock := moment, deadlines := d :: rest }, none)
    else if s.ignores d.signal then passUntil moment rest s
    else if !d.isShared && d.signal ≠ Signal.kill && (s.traps.lookup d.signal).isSome then
      passUntil moment rest { s with arrived := s.arrived ++ [d.signal] }
    else ({ s with clock := max s.clock d.time, deadlines := rest, expired := some d.signal }, some d.signal)

def passTime (s : State) (took : Nat) : State × Option Nat := passUntil (s.clock + took) s.deadlines s

def idle (s : State) (took : Nat) : State :=
  match s.passTime took with
  | (s, some signal) => s.notice signal
  | (s, none) => s

end State

end Emplace.Program.Shell
