import Emplace.Program.Shell.Builtin

namespace Emplace.Program.Shell

def killUsage : String :=
  "Usage: kill [-s sigspec | -signum | -sigspec] [pid | job]... or\nkill -l [exitstatus]"

inductive KillRequest
  | list (args : List String)
  | send (signal : Nat) (targets : List String)
  deriving DecidableEq, Repr, Inhabited

def killRequest (args : List String) : Except String KillRequest :=
  let signal? := args.head?.bind fun first =>
    if first.toList.head? == some '-' then Signal.ofText? (String.ofList (first.toList.drop 1)) else none
  match args, signal? with
  | [], _ => .error killUsage
  | _ :: rest, some signal => if rest.isEmpty then .error killUsage else .ok (.send signal rest)
  | args, none => do
    let letters := Letters.ofArguments ['l'] ['s'] args
    let named := (letters.given.filter fun (c, _) => c == 's').map Prod.snd
    match named.find? fun text => (Signal.ofText? text).isNone with
    | some text => .error s!"invalid signal number or name: {text}"
    | none =>
      let targets ← letters.rest
      match letters.has 'l', named.getLast?.bind Signal.ofText? with
      | true, none => .ok (.list targets)
      | true, some _ => .error killUsage
      | false, signal =>
        if targets.isEmpty then .error killUsage else .ok (.send (signal.getD Signal.terminate) targets)

inductive JobFault
  | missing
  | noPrevious
  | noCurrent
  deriving DecidableEq, Repr, Inhabited

def State.job? (s : State) (text : List Char) : Except JobFault Job :=
  let own := s.jobs.filter Job.isOwn
  match text with
  | [] | ['%'] | ['+'] => (own.head?.map .ok).getD (.error .noCurrent)
  | ['-'] => ((own[1]?).map .ok).getD (.error .noPrevious)
  | _ =>
    match Text.digits? text with
    | some n => ((own.find? fun j => j.index = n).map .ok).getD (.error .missing)
    | none => .error .missing

def JobFault.text (arg : String) : JobFault → String
  | .missing => s!"No such job: {arg}"
  | .noPrevious => "No previous job"
  | .noCurrent => "No current job"

def State.withJob (s : State) (job : Job) : State :=
  { s with jobs := s.jobs.map fun j => if j.number = job.number then job else j }

def send (signal : Nat) : (status : Nat) → List String → State → State
  | status, [], s => if s.jump.isSome then s else s.withStatus status
  | status, target :: rest, s =>
    let absent (s : State) : State := send signal 1 rest (s.say "No such process\n")
    if s.jump.isSome then s
    else if target.toList.head? == some '%' then
      match s.job? (target.toList.drop 1) with
      | .ok _ => absent s
      | .error fault => s.refuse (fault.text target) 2
    else
      let number := if target.toList.head? == some '-' then String.ofList (target.toList.drop 1) else target
      match natural? number with
      | none => s.refuse s!"Illegal number: {number}" 2
      | some _ =>
        if target = s.number then send signal status rest (s.receive signal)
        else if s.outer.contains target then
          send signal status rest { s with sent := s.sent ++ [(target, signal)] }
        else
          match s.jobs.find? fun j => j.number = target && !j.isNoticed with
          | some job =>
            if signal = 0 || job.outcome.isSome then send signal status rest s
            else
              let isAlone := job.script matches .simple ..
              let sent : Deadline := ⟨s.clock, signal, isAlone⟩
              send signal status rest (s.withJob { job with signals := job.signals ++ [sent] })
          | none => absent s

def listSignals (s : State) (args : List String) : State :=
  match args with
  | [] => ("0" :: Signal.names).foldl State.printLine s |>.succeed
  | arg :: _ =>
    match natural? arg with
    | none => s.refuse s!"Illegal number: {arg}" 2
    | some n =>
      match Signal.nameOf? (if Signal.status 0 < n then n - Signal.status 0 else n) with
      | some name => (s.printLine name).succeed
      | none => s.refuse s!"invalid signal number or exit status: {n}" 2

def killCommand : Builtin := fun s args =>
  match killRequest args with
  | .error message => s.refuse message 2
  | .ok (.list args) => listSignals s args
  | .ok (.send signal targets) => send signal 0 targets s

def trapNumber? (text : String) : Option Nat :=
  if String.ofList (text.toList.map Char.toUpper) = "EXIT" then some 0 else Signal.ofText? text

def setTraps (action : Option String) : List String → State → State
  | [], s => s.succeed
  | signal :: rest, s =>
    match trapNumber? signal with
    | none => (s.sayPlainly s!"trap: {signal}: bad trap").withStatus 1
    | some n =>
      let others := s.traps.filter (·.1 != n)
      setTraps action rest { s with traps := (action.map fun text => (n, text)).toList ++ others }

def trapCommand : Builtin := fun s args =>
  withLetters s [] [] args fun _ args =>
    let printed (s : State) (signal : Nat) : State :=
      match s.traps.lookup signal with
      | some text =>
        let name := (Signal.nameOf? signal).getD "EXIT"
        s.printLine (" ".intercalate ["trap", "--", singleQuoted text, name])
      | none => s
    let isNumber (text : String) : Bool := (Text.digits? text.toList).any (· ≤ Signal.last)
    match args with
    | [] => (List.range (Signal.last + 1)).foldl printed s.succeed
    | [signal] => setTraps none [signal] s
    | action :: signals =>
      if isNumber action then setTraps none args s
      else setTraps (if action = "-" then none else some action) signals s

end Emplace.Program.Shell
