import Emplace.Program.Executable
import Emplace.Program.Shell.Builtin.Option
import Emplace.Program.Shell.Redirecting

namespace Emplace.Program.Shell

def standardPath : String := ":".intercalate searched

def standardVariables (parent : String) : List (String × String) :=
  [("PPID", parent), ("OPTIND", "1"), ("IFS", " \t\n"), ("PS4", "+ "), ("PS2", "> "), ("PS1", "# "),
    ("PATH", standardPath)]

def pathHere (disk : Files.Disk) (told : Option String) : String :=
  let place := Raw.ofText ("/" ++ "/".intercalate disk.working)
  match told with
  | some path =>
    match disk.find (Raw.toText path) with
    | .ok (there, _) => if Files.isAbsolute path && there = disk.working then path else place
    | .error _ => place
  | none => place

def State.begun (s : State) (name number : String) (environment : List (String × String)) : State :=
  let given := environment.filter fun (name, _) => isName name.toList
  let here := pathHere s.disk (given.lookup "PWD")
  let bindings := given.foldl (fun bindings (name, value) => State.bound name value bindings)
    (standardVariables s.number)
  let fixed := [("IFS", " \t\n"), ("OPTIND", "1"), ("PWD", here), ("PPID", s.number)]
  { name := name
    number := number
    outer := s.number :: s.outer
    bindings := fixed.foldl (fun bindings (name, value) => State.bound name value bindings) bindings
    exported := "PWD" :: (given.map Prod.fst).filter (· ≠ "PWD")
    traps := s.traps.filter (·.2 = "")
    mask := s.mask
    limits := s.limits
    started := 0
    clock := s.clock
    deadlines := s.deadlines.filter Deadline.isShared
    niceness := s.niceness
    turnLimit := s.turnLimit
    sources := s.sources
    buffers := s.buffers
    streams := s.streams
    disk := s.disk
    here := here }

def begun : (bound : Nat) → (asked : List Char) → State → List String → State × List Char × List String
  | 0, asked, s, args => (s, asked, args)
  | _, asked, s, [] => (s, asked, [])
  | bound + 1, asked, s, arg :: rest =>
    match arg.toList with
    | ['-'] | ['-', '-'] => (s, asked, rest)
    | ['+'] => begun bound asked s rest
    | sign :: c :: letters =>
      if sign == '-' || sign == '+' then
        let isPlace (c : Char) : Bool := c == 'c' || c == 's'
        let (s, rest) := setOptions s (sign == '-') ((c :: letters).filter fun c => c != 'c') rest
        let asked := asked ++ (c :: letters).filter isPlace
        if s.jump.isSome then (s, asked, rest) else begun bound asked s rest
      else (s, asked, arg :: rest)
    | _ => (s, asked, arg :: rest)

def scriptIn (disk : Files.Disk) (path : String) : Except SystemError (List Char) :=
  match disk.read (Raw.toText path) with
  | .ok content => .ok (Raw.ofBytes content).toList
  | .error .isADirectory => .ok []
  | .error e => .error e

def session (run : Runner) (s : State) (args : List String) : State :=
  let (s, asked, args) := begun (args.length + 1) [] { s with line := 0 } args
  let start (s : State) (text : List Char) : State :=
    let ended := finish run (runText run (text.filter (· != '\x00')) { s with line := 1 })
    completeJobs run none (fun _ => true) jobLimit ended
  if s.jump.isSome then s
  else if asked.contains 'c' then
    match args with
    | [] => s.giveUp "-c requires an argument" 2
    | text :: args => start { s with name := args.headD s.name, positional := args.drop 1 } text.toList
  else
    match asked, args with
    | [], file :: args =>
      match scriptIn s.disk file with
      | .ok text => start { s with name := file, positional := args } text
      | .error e => s.giveUp (cannotOpen file e) 2
    | _, args =>
      let text := (Raw.ofBytes (s.sourceOf 0).bytes).toList
      start { s.withRest 0 [] with positional := args, options := 's' :: s.options.filter (· != 's') } text

def nested (run : Runner) (s : State) (call : Call) : State × Ending :=
  let number := toString ((natural? s.number).getD 0 + s.started + 1)
  let after := session run (s.begun call.name number call.environment) call.args
  let s := { s with buffers := after.buffers, sources := after.sources, clock := after.clock, started := s.started + 1,
                    disk := { s.disk with root := after.disk.root }, expired := after.expired <|> s.expired,
                    sent := s.sent ++ after.sent }
  let s := { s with deadlines := s.deadlines.filter fun d => after.clock ≤ d.time && !after.expired.isSome ||
    after.clock < d.time }
  match after.jump with
  | some (.killed signal) => (s, .killed signal)
  | _ => (s, .exited (after.status % 256))

def closedInput (name : String) : Finished :=
  .complained s!"{name}: -: Bad file descriptor\n{name}: closing standard input: Bad file descriptor" 1

def runFound (run : Runner) (start : Start) (s : State) (call : Call) : Executable → State × Ending
  | .shell => nested run s call
  | .launcher launch => launch start s call
  | .unknown => (s, .exited 0)
  | .utility name utility =>
    let source := s.sourceOf 0
    let f := utility ⟨s.disk, call.environment, source.bytes, source.isFile⟩ call.args
    s.take name call.name (if f.unread.isSome && (s.streams.lookup 0).isNone then closedInput name else f)

def foldersIn (environment : List (String × String)) : List String :=
  ((environment.lookup "PATH").getD "/bin:/usr/bin").splitOn ":"

def startWithin (run : Runner) : (bound : Nat) → Start
  | 0, _, _ => .error .argumentsTooLong
  | bound + 1, s, call =>
    (locate s.disk (foldersIn call.environment) call.name).map fun (_, found) =>
      runFound run (startWithin run bound) s call found

def startLimit : Nat := 100

def startFound (run : Runner) (s : State) (call : Call) (found : Executable) : State × Ending :=
  runFound run (startWithin run startLimit) s call found

end Emplace.Program.Shell
