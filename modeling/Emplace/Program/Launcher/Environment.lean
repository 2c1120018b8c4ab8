import Emplace.Program.Format
import Emplace.Program.Launcher.Setting

namespace Emplace.Program.Launcher

open Shell (State)

inductive SplitFault
  | openQuote
  | lastBackslash
  | escape (c : Char)
  | variable (rest : String)
  deriving DecidableEq, Repr, Inhabited

def SplitFault.text : SplitFault → String
  | .openQuote => "no terminating quote in -S string"
  | .lastBackslash => "invalid backslash at end of string in -S"
  | .escape c => s!"invalid sequence \x27\\{c}\x27 in -S"
  | .variable rest => s!"only $\x7bVARNAME\x7d expansion is supported, error at: {rest}"

structure Split where
  words : List String := []
  word : Option (List Char) := none
  deriving DecidableEq, Repr, Inhabited

def Split.adding (s : Split) (cs : List Char) : Split := { s with word := some (s.word.getD [] ++ cs) }

def Split.ended (s : Split) : Split := ⟨s.words ++ (s.word.map String.ofList).toList, none⟩

def splitEscape? (c : Char) : Option Char :=
  (['f', 'n', 'r', 't', 'v', '#', '$', '\\', '"', '\x27'].zip
    ['\x0c', '\n', '\r', '\t', '\x0b', '#', '$', '\\', '"', '\x27']).lookup c

def splitFrom (environment : List (String × String)) :
    (bound : Nat) → (quote : Option Char) → Split → List Char → Except SplitFault (List String)
  | 0, _, s, _ => .ok s.ended.words
  | _, none, s, [] => .ok s.ended.words
  | _, some _, _, [] => .error .openQuote
  | bound + 1, quote, s, c :: rest =>
    let onward := splitFrom environment bound
    if quote = some '\x27' then
      match c, rest with
      | '\x27', _ => onward none s rest
      | '\\', '\\' :: rest => onward quote (s.adding ['\\']) rest
      | '\\', '\x27' :: rest => onward quote (s.adding ['\x27']) rest
      | _, _ => onward quote (s.adding [c]) rest
    else
      match c, rest with
      | '"', _ => onward (if quote.isSome then none else some '"') (s.adding []) rest
      | '\x27', _ => if quote.isSome then onward quote (s.adding [c]) rest else onward (some c) (s.adding []) rest
      | '\\', [] => .error .lastBackslash
      | '\\', 'c' :: _ => if quote.isSome then .error (.escape 'c') else .ok s.ended.words
      | '\\', '_' :: rest => if quote.isSome then onward quote (s.adding [' ']) rest else onward quote s.ended rest
      | '\\', d :: rest =>
        match splitEscape? d with
        | some c => onward quote (s.adding [c]) rest
        | none => .error (.escape d)
      | '$', _ =>
        let name := (rest.drop 1).takeWhile Shell.isNameChar
        match rest.head?, rest.drop (1 + name.length) with
        | some '\x7b', '\x7d' :: behind =>
          if Shell.isName name then
            match environment.lookup (String.ofList name) with
            | some value => onward quote (s.adding value.toList) behind
            | none => onward quote s behind
          else .error (.variable (String.ofList (c :: rest)))
        | _, _ => .error (.variable (String.ofList (c :: rest)))
      | '#', _ => if s.word.isNone && quote.isNone then .ok s.words else onward quote (s.adding [c]) rest
      | _, _ => if isSpaceChar c && quote.isNone then onward quote s.ended rest else onward quote (s.adding [c]) rest

def splitArguments (environment : List (String × String)) :
    (bound : Nat) → List String → Except SplitFault (List String)
  | 0, args => .ok args
  | _, [] => .ok []
  | bound + 1, arg :: rest =>
    let split (front : List String) (text : List Char) (rest : List String) : Except SplitFault (List String) := do
      let words ← splitFrom environment (text.length + 1) none {} text
      return front ++ (← splitArguments environment bound (words ++ rest))
    match arg.toList with
    | '-' :: '-' :: cs =>
      match Text.stripStart? "split-string=".toList cs with
      | some text => split [] text rest
      | none =>
        if cs.isEmpty then .ok (arg :: rest) else (splitArguments environment bound rest).map (arg :: ·)
    | '-' :: c :: cs =>
      let letters := (c :: cs).takeWhile fun c => ['i', '0', 'v'].contains c
      let before := if letters.isEmpty then [] else [String.ofList ('-' :: letters)]
      match (c :: cs).drop letters.length, rest with
      | 'S' :: text, [] => if text.isEmpty then .ok [arg] else split before text []
      | 'S' :: text, value :: rest =>
        if text.isEmpty then split before value.toList rest else split before text (value :: rest)
      | ['u'], value :: rest | ['C'], value :: rest =>
        (splitArguments environment bound rest).map ([arg, value] ++ ·)
      | _, _ => (splitArguments environment bound rest).map (arg :: ·)
    | _ => .ok (arg :: rest)

def withVariable (environment : List (String × String)) (name value : String) : List (String × String) :=
  if environment.any fun v => v.1 = name then environment.map fun v => if v.1 = name then (name, value) else v
  else environment ++ [(name, value)]

def valueGiven? (arg : String) : Option (String × String) :=
  let name := arg.toList.takeWhile (· != '=')
  if name.length < arg.length then
    some (String.ofList name, String.ofList (arg.toList.drop (name.length + 1)))
  else none

def envSteps (options : GivenOptions) (isBare : Bool) (dropped : List String) (given : List (String × String))
    (args : List String) : List String :=
  let shown := args.zipIdx.map fun (arg, i) => s!"   arg[{i}]= {inQuotes arg}"
  if options.has 'v' then
    (if isBare then ["cleaning environ"] else dropped.map fun name => s!"unset:    {name}") ++
      (given.map fun (name, value) => s!"setenv:   {name}={value}") ++
      ((options.value? 'C').map fun path => s!"chdir:    {path}").toList ++
      (args.head?.map fun name => s!"executing: {name}").toList ++ shown
  else []

def env : Launcher := fun start s call =>
  let known := [⟨'i', "ignore-environment", .nothing⟩, ⟨'0', "null", .nothing⟩, ⟨'u', "unset", .value⟩,
    ⟨'C', "chdir", .value⟩, ⟨'S', "split-string", .value⟩, ⟨'v', "debug", .nothing⟩,
    ⟨'\x01', "block-signal", .perhaps⟩, ⟨'\x01', "default-signal", .perhaps⟩, ⟨'\x01', "ignore-signal", .perhaps⟩,
    ⟨'\x01', "list-signal-handling", .nothing⟩]
  let g : Grammar := { name := call.name, known := known, status := 125, mixed := false }
  let left (f : Finished) : State × Ending := leaving s call.name f
  match splitArguments call.environment 100 call.args with
  | .error fault => left (.complained s!"{call.name}: {fault.text}" 125)
  | .ok args =>
    match g.read (args.length + 1) args with
    | .error f => left f
    | .ok (options, args) =>
      let isBare := options.has 'i' || args.head? = some "-"
      let args := if args.head? = some "-" then args.drop 1 else args
      let dropped := (options.filter fun o => o.letter == 'u').filterMap Given.value
      let given := (args.takeWhile fun arg => (valueGiven? arg).isSome).filterMap valueGiven?
      let args := args.drop given.length
      let kept := if isBare then [] else call.environment.filter fun (name, _) => !dropped.contains name
      let environment := given.foldl (fun vs (name, value) => withVariable vs name value) kept
      match if isBare then none else dropped.find? fun name => name = "" || name.toList.contains '=' with
      | some name => left (.complained s!"{call.name}: cannot unset {inQuotes name}: Invalid argument" 125)
      | none =>
        let s := (envSteps options isBare dropped given args).foldl State.sayPlainly s
        match args with
        | [] =>
          let lineEnd := if options.has '0' then "\x00" else "\n"
          if options.has 'C' then left (g.refuse "must specify command with --chdir (-C)")
          else
            s.take "env" call.name
              (.printedText (String.join (environment.map fun (name, value) => s!"{name}={value}{lineEnd}")))
        | program :: _ =>
          if options.has '0' then left (g.refuse "cannot specify --null (-0) with command")
          else
            let place := (options.value? 'C').map fun path => (path, s.disk.find (Raw.toText path))
            let fault (name : String) (e : SystemError) : String :=
              plainFault call.name name e ++
                if e = .noSuchFile && program.toList.any isSpaceChar then
                  s!"\n{call.name}: use -[v]S to pass options in shebang lines" else ""
            let call := { call with environment := environment }
            let refused (path : String) (e : SystemError) : State × Ending :=
              s.take call.name call.name
                (.complained s!"{call.name}: cannot change directory to {alwaysQuoted path}: {e.words}" 125)
            match place with
            | some (_, .ok (place, .folder _)) =>
              let moved := { s with disk := { s.disk with working := place } }
              let (after, ending) := runningArguments start moved call args fault
              ({ after with disk := { after.disk with working := s.disk.working } }, ending)
            | some (path, .ok _) => refused path .notADirectory
            | some (path, .error e) => refused path e
            | none => runningArguments start s call args fault

end Emplace.Program.Launcher
