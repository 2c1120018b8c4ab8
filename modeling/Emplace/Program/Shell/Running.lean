import Emplace.Program.Shell.Builtin.Signalling
import Emplace.Program.Shell.Pathname

namespace Emplace.Program.Shell

abbrev Runner := Script → State → State

/-- Carries out the lines of a script until something ends it. Short names count from the next line on. -/
def runLines (run : Runner) (last : Nat) : (bound : Nat) → Tokens → State → State
  | 0, _, s => s
  | _, [], s => s
  | bound + 1, ts, s =>
    match readLineDeeply s.aliases ts with
    | .error refusal => { s with line := refusal.line.getD last }.giveUp s!"Syntax error: {refusal.fault.text}" 2
    | .ok (script, rest) =>
      let s := run script s
      if s.jump.isSome then s else runLines run last bound rest s

def runTextFrom (run : Runner) (line : Nat) (text : List Char) (s : State) : State :=
  let ts := tokens line text
  runLines run (text.count '\n' + line) (ts.length + 1) ts s

def runText (run : Runner) (text : List Char) (s : State) : State := runTextFrom run 1 text s

def finish (run : Runner) (s : State) : State :=
  match s.jump, s.traps.lookup 0 with
  | some (.killed _), _ | _, none => s
  | _, some text =>
    let after := runText run text.toList { s with jump := none, traps := s.traps.filter (·.1 != 0) }
    if after.jump = some .exit then after else { after with status := s.status }

def answer (run : Runner) (s : State) (signals : List Nat) : State :=
  signals.foldl
    (fun s signal =>
      match s.jump, s.traps.lookup signal with
      | none, some text =>
        let after := runText run text.toList s
        if after.jump.isSome then after else { after with status := s.status }
      | _, _ => s)
    s

def settleSignals (run : Runner) (s : State) : State :=
  let s := answer run { s with arrived := [] } s.arrived
  if s.inner || s.pending.isEmpty then s
  else
    let s := s.pending.foldl State.receive { s with pending := [] }
    answer run { s with pending := [] } s.pending

def alone (run : Runner) (part : State → State) (s : State) : State := s.apart fun s => finish run (part s)

def patience : Nat := 100000000000

/-- The most turns of a loop whose output goes into a pipe, and of one in a job. -/
def pipedTurns : Nat := 50000

def carryOut (run : Runner) (s : State) (job : Job) : State × Nat × Ending :=
  let shared := (s.deadlines.filter Deadline.isShared) ++ job.signals ++ [⟨job.began + patience, Signal.kill, true⟩]
  let ignored := [(2, ""), (3, "")]
  let after := finish run (run job.script { s with
    inner := true, clock := job.began, deadlines := shared.mergeSort fun a b => a.time ≤ b.time
    expired := none, arrived := [], jump := none, loops := 0, status := 0, tested := false, speaker := none
    line := job.line, turnLimit := min s.turnLimit pipedTurns
    traps := ignored ++ s.traps.filter (·.2 = ""), bindings := job.bindings, positional := job.positional
    streams := job.streams
    jobs := s.jobs.map fun j =>
      { j with isOwn := false, outcome := if j.number = job.number then some (.exited 0) else j.outcome } })
  let ending : Ending := match after.jump with
    | some (.killed signal) => .killed signal
    | _ => .exited (after.status % 256)
  let owned := (s.jobs.filter Job.isOwn).map Job.number
  ({ s with buffers := after.buffers, sources := after.sources, disk := { s.disk with root := after.disk.root },
            pending := after.pending, sent := after.sent, started := after.started
            jobs := after.jobs.map fun j => { j with isOwn := owned.contains j.number } }, after.clock, ending)

def State.freePlace (s : State) : State × Nat :=
  let own := s.jobs.filter Job.isOwn
  let isFree (index : Nat) : Bool := own.all fun j => j.index ≠ index || j.outcome.isSome && j.isAwaited
  let index := ((List.range (own.length + 1)).map (· + 1)).find? isFree
  let index := index.getD (own.length + 1)
  ({ s with jobs := s.jobs.filter fun j => !(j.isOwn && j.index = index) }, index)

def State.noticeEnds (s : State) : State :=
  if s.jobs.isEmpty then s
  else
    let (s, _) := s.freePlace
    { s with jobs := s.jobs.map fun j => if j.outcome.isSome then { j with isNoticed := true } else j }

def partTime : Nat := 200000

def startJob (run : Runner) (s : State) (body : Script) : State :=
  let number := toString ((natural? s.number).getD 0 + s.started + 1)
  let (s, index) := s.freePlace
  let job : Job :=
    { index := index, number := number, began := s.clock + partTime, ends := s.clock, outcome := none, isNoticed := false
      isAwaited := false, signals := [], script := body, line := s.line, bindings := s.bindings, positional := s.positional
      streams := (0, .nothing) :: s.streams.filter (·.1 != 0), isOwn := true }
  let s := { s with started := s.started + 1 }
  { s with jobs := { job with ends := (carryOut run s job).2.1 } :: s.jobs, latest := some number, status := 0 }

def State.nextEnd? (s : State) (holds : Job → Bool) : Option Job :=
  (s.jobs.filter fun j => j.outcome.isNone && holds j).foldl
    (fun best j =>
      match best with
      | some first => if j.ends ≤ first.ends then some j else best
      | none => some j)
    none

def completeJobs (run : Runner) (moment : Option Nat) (holds : Job → Bool) : (bound : Nat) → State → State
  | 0, s => s
  | bound + 1, s =>
    match s.nextEnd? fun j => holds j && moment.all (j.ends ≤ ·) with
    | none => s
    | some job =>
      let (after, _, ending) := carryOut run s job
      completeJobs run moment holds bound
        (after.withJob { job with outcome := some ending, isNoticed := job.ends < s.clock })

def jobLimit : Nat := 1000

def settleJobs (run : Runner) (s : State) : State :=
  if s.jobs.all fun j => j.outcome.isSome then s
  else
    let retimed := s.jobs.map fun j =>
      if j.outcome.isSome || j.signals.isEmpty then j else { j with ends := max s.clock (carryOut run s j).2.1 }
    completeJobs run (some s.clock) (fun _ => true) jobLimit { s with jobs := retimed }

def State.isTimed (s : State) : Bool := !s.deadlines.isEmpty || s.jobs.any fun j => j.outcome.isNone

def spend (run : Runner) (s : State) (took : Nat) : State :=
  if s.isTimed then settleJobs run (s.idle took) else s

def settle (run : Runner) (s : State) : State := settleSignals run (settleJobs run s)

def awaitJob (run : Runner) (s : State) (job : Job) : State :=
  let (s, signal) := s.passTime (job.ends - s.clock)
  let s := settleJobs run s
  match signal with
  | some signal => s.notice signal
  | none => s

def State.isInterrupted (s : State) : Bool := s.jump.isSome || !s.pending.isEmpty || !s.arrived.isEmpty

def awaitAll (run : Runner) : (bound : Nat) → State → State
  | 0, s => s
  | bound + 1, s =>
    if s.isInterrupted then s
    else
      match s.nextEnd? Job.isOwn with
      | none =>
        let done (j : Job) : Job := if j.isOwn then { j with isNoticed := true, isAwaited := true } else j
        { s with jobs := s.jobs.map done, status := 0 }
      | some job => awaitAll run bound (awaitJob run s job)

def awaitOne (run : Runner) (s : State) (job : Job) : State :=
  let s := if job.outcome.isSome then s else awaitJob run s job
  match (s.jobs.find? fun j => j.number = job.number).bind fun j => j.outcome.map (j, ·) with
  | none => s
  | some (job, ending) =>
    let s := s.withJob { job with isNoticed := true, isAwaited := true }
    match ending with
    | .exited code => s.withStatus code
    | .killed signal => if job.isNoticed then s.withStatus (Signal.status signal) else s.mourn signal

def waitCommand (run : Runner) : Builtin := fun s args =>
  let asked (s : State) (arg : String) : State :=
    if s.isInterrupted then s
    else if arg.toList.head? == some '%' then
      match s.job? (arg.toList.drop 1) with
      | .ok job => awaitOne run s job
      | .error fault => s.refuse (fault.text arg) 2
    else
      match natural? arg, s.jobs.find? fun j => j.isOwn && j.number = arg with
      | none, _ => s.refuse s!"Illegal number: {arg}" 2
      | some _, some job => awaitOne run s job
      | some _, none => s.withStatus 127
  let after := if args.isEmpty then awaitAll run jobLimit s else args.foldl asked s.succeed
  match after.jump, after.arrived ++ after.pending with
  | none, signal :: _ => after.withStatus (Signal.status signal)
  | _, _ => after

def shownJob (s : State) (job : Job) : String :=
  let own := s.jobs.filter Job.isOwn
  let isAt (place : Nat) : Bool := (own[place]?).any fun j => j.number = job.number
  let sign := if isAt 0 then "+" else if isAt 1 then "-" else " "
  let state := match job.outcome with
    | none => "Running"
    | some (.exited 0) => "Done"
    | some (.exited code) => s!"Done({code})"
    | some (.killed signal) => (Signal.obituary signal).getD (if signal = 2 then "Interrupt" else "Broken pipe")
  leftAligned 33 s!"[{job.index}] {sign} {state}"

def jobsCommand : Builtin := fun s args =>
  withLetters s ['l', 'p'] [] args fun letters args =>
    let own := s.jobs.filter Job.isOwn
    let told (s : State) (job : Job) : State :=
      let s := s.printLine (if letters.has 'p' then job.number else shownJob s job)
      if job.outcome.isSome then { s with jobs := s.jobs.filter fun j => j.number ≠ job.number } else s
    let named (s : State) (arg : String) : State :=
      if s.jump.isSome then s
      else
        match s.job? (if arg.toList.head? == some '%' then arg.toList.drop 1 else arg.toList) with
        | .ok job => told s job
        | .error fault => s.refuse (fault.text arg) 2
    (if args.isEmpty then own else []).foldl told (args.foldl named s.succeed)

def moveCommand : Builtin := fun s args =>
  let args := if args.isEmpty then ["%"] else args
  args.foldl
    (fun s arg =>
      if s.jump.isSome then s
      else
        let shown := if arg = "%" then "(null)" else arg
        match s.job? (if arg.toList.head? == some '%' then arg.toList.drop 1 else arg.toList) with
        | .ok _ => s.refuse s!"job {shown} not created under job control" 2
        | .error fault => s.refuse (fault.text arg) 2)
    s

def wordDepth : Nat := 64

def drain (run : Runner) (index : Nat) (s : State) : State :=
  let isInto (j : Job) : Bool := j.streams.any fun (_, channel) => channel = .buffer index
  match (s.jobs.filter fun j => j.outcome.isNone && isInto j).map Job.ends with
  | [] => s
  | ends =>
    let s := completeJobs run none isInto jobLimit s
    s.idle ((ends.foldl max s.clock) - s.clock)

def gather (run : Runner) (s : State) (part : State → State) : State × Bytes :=
  let index := s.buffers.length
  s.capturing fun s => drain run index (part s)

def capture (run : Runner) : Capture := fun backquoted s text =>
  let (after, bytes) := gather run s (alone run (runTextFrom run (if backquoted then 1 else s.line) text))
  ({ after with status := s.status, answer := some after.status, line := s.line }, bytes)

def declaring : List String := ["alias", "export", "local", "readonly"]

def isDeclaring (args : List String) : Bool :=
  let args := if args.head? = some "command" then
      (args.drop 1).dropWhile fun arg => arg.toList.head? == some '-'
    else args
  args.head?.any declaring.contains

def wordText (run : Runner) (tildes : Tildes) (s : State) (w : Word) : State × String :=
  let (s, gs) := expand (capture run) wordDepth tildes s w
  (s, textOf gs)

def fields (run : Runner) (s : State) (words : List Word) : State × List String :=
  words.foldl
    (fun (s, args) w =>
      if s.jump.isSome then (s, args)
      else
        match if isDeclaring args then Word.assignment? w else none with
        | some (name, value) =>
          let (s, text) := wordText run .colons s value
          (s, args ++ [s!"{name}={text}"])
        | none =>
          let (s, gs) := expand (capture run) wordDepth .start s w
          (s, args ++ (fieldsOf s.separators gs).flatMap (fieldTexts s)))
    (s, [])

def assignWords (run : Runner) (s : State) (assignments : List (String × Word)) : State × List (String × String) :=
  assignments.foldl
    (fun (s, done) (name, w) =>
      if s.jump.isSome then (s, done)
      else
        let (s, value) := wordText run .colons s w
        let s := s.assign name value
        (if s.jump = some .refused then { s with jump := some .exit } else s, done ++ [(name, value)]))
    (s, [])

end Emplace.Program.Shell
