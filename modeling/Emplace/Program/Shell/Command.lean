import Emplace.Program.Shell.Lookup

namespace Emplace.Program.Shell

def launchFault (name : String) (e : SystemError) : String × Nat :=
  if name = "" then (": Permission denied", 127)
  else
    let absent := e = .noSuchFile || e = .notADirectory || e = .nameTooLong || e = .tooManyLinks
    (s!"{name}: " ++ openFault "not found" e, if absent || !name.toList.contains '/' then 127 else 126)

def programTime : Nat := 500000

def launch (run : Runner) (s : State) (name : String) (args : List String) : State × Option Ending :=
  match locate s.disk s.folders name with
  | .error e =>
    let (message, status) := launchFault name e
    (s.complain message status, none)
  | .ok (path, found) =>
    let s := (spend run (s.remember name path) programTime).noticeEnds
    if s.jump.isSome then (s, none) else
    let (after, ending) := startFound run { s with expired := none } ⟨name, args, s.environment⟩ found
    let own := after.sent.filter fun (number, _) => number = s.number
    let others := after.sent.filter fun (number, _) => number ≠ s.number
    let s := { after with expired := after.expired <|> s.expired, sent := others }
    let s := own.foldl (fun s (_, signal) => s.receive signal) s
    (match after.expired with
      | some signal => s.notice signal
      | none => s, some ending)

def launchAwaited (run : Runner) (s : State) (name : String) (args : List String) : State :=
  match launch run s name args with
  | (s, none) => s
  | (s, some (.exited code)) => s.withStatus code
  | (s, some (.killed signal)) => if s.jump.isSome then s else s.mourn signal

def replace (run : Runner) (s : State) (args : List String) : State :=
  match args with
  | [] => s.succeed
  | name :: args =>
    match launch run { s with traps := s.traps.filter (·.2 = "") } name args with
    | (s, some (.killed signal)) => { s with jump := some (.killed signal) }
    | (s, some (.exited code)) => { s with status := code, jump := s.jump <|> some .exit }
    | (s, none) => { s with jump := some .exit }

def source (run : Runner) (s : State) (args : List String) : State :=
  match args with
  | [] => s.succeed
  | name :: _ =>
    let isFile (path : String) : Bool := (s.disk.read (Raw.toText path)).isOk
    let choices := s.folders.map fun folder => if folder = "" then name else Files.join folder name
    let path := if name.toList.contains '/' then some name else choices.find? isFile
    match path with
    | none => s.refuse s!"{name}: not found" 2
    | some path =>
      match s.disk.read (Raw.toText path) with
      | .error e => s.refuse (cannotOpen path e) 2
      | .ok content =>
        let text := (Raw.ofBytes content).toList.filter (· != '\x00')
        let after := runText run text { s.succeed with speaker := some path }
        { after with speaker := s.speaker, jump := after.jump.filter (· ≠ .returned) }

def callFunction (run : Runner) (s : State) (body : Script) (args : List String) : State :=
  if 1000 ≤ s.calls then s.giveUp "Maximum function recursion depth (1000) reached" 2
  else
    let after := run body
      { s with positional := args, calls := s.calls + 1, shadowed := some [], loops := 0, optionPlace := ⟨1, 0⟩ }
    let after := (after.shadowed.getD []).foldl State.restore after
    { after with positional := s.positional, calls := s.calls, shadowed := s.shadowed, loops := s.loops
                 optionPlace := s.optionPlace, jump := after.jump.filter (· ≠ .returned) }

def printing (part : State → State) (s : State) : State :=
  if (s.writeFault? 1).isNone then part s
  else
    let (after, bytes) := s.capturing part
    if bytes.isEmpty then after
    else after.complain s!"{s.speaker.getD s.name}: I/O error" (if after.status = 0 then 1 else after.status)

def act (run : Runner) (s : State) (name : String) (args : List String) : State :=
  match name with
  | "." => source run s args
  | "eval" => runText run (" ".intercalate args).toList s.succeed
  | "exec" => replace run s args
  | "type" => printing (describe false · args) s
  | "hash" => printing (hashCommand · args) s
  | "wait" => waitCommand run s args
  | _ =>
    match specials.lookup name, builtins.lookup name with
    | some builtin, _ | none, some builtin => printing (builtin · args) s
    | none, none => launchAwaited run s name args

def command (run : Runner) (special : Bool) (s : State) (name : String) (args : List String) : State :=
  let after := act run { s with speaker := if isOwnCommand name then some name else s.speaker } name args
  { after with
    speaker := s.speaker
    jump := if after.jump = some .refused then if special then some .exit else none else after.jump }

/-- Carries out the words of a command: a function, or a command. Behind the word `command` no function is meant and
nothing special. -/
def call (run : Runner) (s : State) : List String → State
  | [] => s.succeed
  | "command" :: args =>
    let after := withLetters { s with speaker := some "command" } ['p', 'v', 'V'] [] args fun letters args =>
      match letters.given.filter (·.1 != 'p'), args with
      | (c, _) :: _, names => printing (describe (c == 'v') · (names.take 1)) s
      | [], [] => s.succeed
      | [], name :: args => command run false s name args
    { after with speaker := s.speaker, jump := after.jump.filter (· ≠ .refused) }
  | name :: args =>
    match specialCommands.contains name, s.functions.lookup name with
    | true, _ => command run true s name args
    | false, some body => callFunction run s body args
    | false, none => command run false s name args

def traceStart (run : Runner) (s : State) : State × String :=
  let text := (s.bindings.lookup "PS4").getD ""
  match quotedPieces (quotesEscaped text.toList) with
  | .ok w =>
    let (after, shown) := wordText run .nowhere { s with options := s.options.filter (· != 'x') } w
    ({ after with options := s.options, status := s.status, answer := s.answer }, shown)
  | .error _ => (s, text)

def trace (run : Runner) (complaints : Option Channel) (assigned : List (String × String)) (args : List String)
    (s : State) : State :=
  if s.isOn 'x' then
    let (s, front) := traceStart run s
    let shown := " ".intercalate (assigned.map (fun (name, value) => s!"{name}={value}") ++ args)
    s.put (complaints.getD .nothing) (Raw.bytes (front ++ shown ++ "\n"))
  else s

def commandTime : Nat := 10000

def simple (run : Runner) (words : List Word) (redirections : List Redirection) (s : State) : State :=
  let s := spend run s commandTime
  let assignments := (words.takeWhile fun w => (Word.assignment? w).isSome).filterMap Word.assignment?
  let (s, args) := if s.jump.isSome then (s, []) else
    fields run { s with answer := none } (words.drop assignments.length)
  if s.jump.isSome then s
  else
    let isSpecial := args.head?.any specialCommands.contains
    let complaints := s.streams.lookup 2
    let part (s : State) : State :=
      let (after, assigned) := assignWords run s assignments
      if after.jump.isSome then after
      else if args.isEmpty then
        (if assigned.isEmpty then after else trace run complaints assigned [] after).withStatus (after.answer.getD 0)
      else
        let names := assigned.map Prod.fst
        let given := if isSpecial then after else { after with exported := names ++ after.exported }
        let done := call run (trace run complaints assigned args given) args
        if isSpecial then done
        else
          (names.map s.keep).foldl State.restore done
    if args = ["exec"] then
      let ready := redirections.foldl (redirect run) s
      if ready.jump.isSome then { ready with jump := some .exit } else part ready
    else
      let after := redirecting run redirections part s
      if after.jump = some .refused then { after with jump := if isSpecial then some .exit else none } else after

end Emplace.Program.Shell
