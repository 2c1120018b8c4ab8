import Emplace.Program.Shell.Builtin

namespace Emplace.Program.Shell

abbrev Read := Char × Bool

/-- A line in which backslashes were carried out, and what follows it; none if it ends the text. Zeros are dropped. -/
def lineOf (raw : Bool) : List Char → List Read × Option (List Char)
  | [] => ([], none)
  | '\n' :: rest => ([], some rest)
  | '\\' :: c :: rest =>
    if raw then
      let (line, behind) := lineOf raw (c :: rest)
      (('\\', false) :: line, behind)
    else
      let (line, behind) := lineOf raw rest
      (if c == '\n' then line else (c, true) :: line, behind)
  | c :: rest =>
    let (line, behind) := lineOf raw rest
    (if c == '\x00' || c == '\\' && !raw then line else (c, false) :: line, behind)

def Separators.isBlank (separators : Separators) (c : Read) : Bool := !c.2 && separators.blanks.contains c.1

def Separators.isOther (separators : Separators) (c : Read) : Bool := !c.2 && separators.others.contains c.1

def firstField (separators : Separators) (line : List Read) : List Read × List Read :=
  let (field, behind) := line.span fun c => !separators.isBlank c && !separators.isOther c
  let behind := behind.dropWhile separators.isBlank
  let behind := match behind with
    | c :: rest => if separators.isOther c then rest.dropWhile separators.isBlank else behind
    | [] => []
  (field, behind)

/-- The last field of a line: all of it, without the blanks behind it, and without the one separator that may stand
behind a single field. -/
def lastField (separators : Separators) (line : List Read) : List Read :=
  let (field, behind) := firstField separators line
  if behind.isEmpty then field else Text.dropEndWhile separators.isBlank line

def assignFields (s : State) : List String → List Read → State
  | [], _ => s
  | [name], line => s.assign name (String.ofList ((lastField s.separators line).map Prod.fst))
  | name :: names, line =>
    let (field, rest) := firstField s.separators line
    assignFields (s.assign name (String.ofList (field.map Prod.fst))) names rest

def readLineCommand : Builtin := fun s args =>
  withLetters s ['r'] ['p'] args fun letters names =>
    if names.isEmpty then s.refuse "arg count" 2
    else
      let source := s.sourceOf 0
      let (line, behind) := lineOf (letters.has 'r') (Raw.ofBytes source.bytes).toList
      let s := s.withRest 0 (Raw.bytesOf (behind.getD []))
      let given := names.takeWhile fun name => isName name.toList
      let s := assignFields s given (line.dropWhile s.separators.isBlank)
      match names.drop given.length with
      | [] => if s.jump.isSome then s else s.withStatus (if behind.isSome then 0 else 1)
      | name :: _ => s.refuse s!"{name}: bad variable name" 2

def listVariables (s : State) (command : String) (names : List String) : State :=
  let ordered := names.mergeSort fun a b => a ≤ b
  let lines := ordered.eraseDups.map fun name =>
    command ++ name ++ match s.bindings.lookup name with
      | some value => "=" ++ singleQuoted value
      | none => ""
  (lines.foldl State.printLine s).succeed

def declare (s : State) (args : List String) (act : State → String → State) : State :=
  args.foldl
    (fun s arg =>
      let name := arg.toList.takeWhile (· != '=')
      if s.jump.isSome then s
      else if !isName name then s.refuse s!"{String.ofList name}: bad variable name" 2
      else
        let s := act s (String.ofList name)
        match arg.toList.drop name.length with
        | _ :: value => s.assign (String.ofList name) (String.ofList value)
        | [] => s)
    s.succeed

def exportCommand : Builtin := fun s args =>
  withLetters s ['p'] [] args fun letters args =>
    if args.isEmpty || letters.has 'p' then listVariables s "export " s.exported
    else declare s args fun s name => { s with exported := name :: s.exported.filter (· ≠ name) }

def readonlyCommand : Builtin := fun s args =>
  withLetters s ['p'] [] args fun letters args =>
    if args.isEmpty || letters.has 'p' then listVariables s "readonly " s.fixed
    else
      let declared := declare s args fun s _ => s
      if declared.jump.isSome then declared
      else { declared with fixed := args.map (fun arg => String.ofList (arg.toList.takeWhile (· != '='))) ++ s.fixed }

def localCommand : Builtin := fun s args =>
  let kept (s : State) (what : Kept) : State := { s with shadowed := s.shadowed.map (what :: ·) }
  if s.shadowed.isNone then s.refuse "not in a function" 2
  else
    args.foldl
      (fun s arg =>
        if s.jump.isSome then s
        else if arg = "-" then kept s (.options s.options)
        else declare s [arg] fun s name => kept s (s.keep name))
      s.succeed

def unsetCommand : Builtin := fun s args =>
  withLetters s ['f', 'v'] [] args fun letters names =>
    let functions := (letters.given.getLast?.map Prod.fst) = some 'f'
    names.foldl
      (fun s name =>
        if s.jump.isSome then s
        else if functions then { s with functions := s.functions.filter (·.1 != name) }
        else if isName name.toList then s.unassign name
        else s.refuse s!"{name}: bad variable name" 2)
      s.succeed

def shiftCommand : Builtin := fun s args =>
  withNatural s args 1 fun n =>
    if s.positional.length < n then s.refuse "can\x27t shift that many" 2
    else { s with positional := s.positional.drop n, optionPlace := ⟨1, 0⟩, status := 0 }

def behindLetter? (c : Char) : List Char → Option (List Char)
  | [] => none
  | d :: rest =>
    if d = c then some rest
    else
      match rest with
      | ':' :: rest => behindLetter? c rest
      | rest => behindLetter? c rest

structure NextOption where
  letter : Char
  value : Option String
  place : OptionPlace
  complaint : Option String := none
  deriving DecidableEq, Repr, Inhabited

def nextOption (letters : List Char) (args : List String) (place : OptionPlace) : Except OptionPlace NextOption :=
  let quiet := letters.head? == some ':'
  let before := ((args[place.argument - 2]?).getD "").toList
  let isWithin := 1 < place.argument && 0 < place.letter && place.letter < before.length
  let current := ((args[place.argument - 1]?).getD "").toList
  let read (argument : Nat) (c : Char) (rest : List Char) (offset : Nat) : NextOption :=
    let behind : OptionPlace := ⟨argument, offset⟩
    match behindLetter? c letters with
    | none =>
      if quiet then ⟨'?', some (String.ofList [c]), behind, none⟩
      else ⟨'?', none, behind, some s!"Illegal option -{c}"⟩
    | some (':' :: _) =>
      if !rest.isEmpty then ⟨c, some (String.ofList rest), ⟨argument, 0⟩, none⟩
      else
        match args[argument - 1]? with
        | some value => ⟨c, some value, ⟨argument + 1, 0⟩, none⟩
        | none =>
          if quiet then ⟨':', some (String.ofList [c]), ⟨argument, 0⟩, none⟩
          else ⟨'?', none, ⟨argument, 0⟩, some s!"No arg for -{c} option"⟩
    | some _ => ⟨c, some "", behind, none⟩
  if isWithin then
    match before.drop place.letter with
    | c :: rest => .ok (read place.argument c rest (place.letter + 1))
    | [] => .error place
  else
    match current with
    | ['-', '-'] => .error ⟨place.argument + 1, 0⟩
    | '-' :: c :: rest => .ok (read (place.argument + 1) c rest 2)
    | _ => .error ⟨place.argument, 0⟩

def getoptsCommand : Builtin := fun s args =>
  withLetters s [] [] args fun _ args =>
    match args with
    | letters :: name :: given =>
      let args := if given.isEmpty then s.positional else given
      let place : OptionPlace := if args.length + 1 < s.optionPlace.argument then ⟨1, 0⟩ else s.optionPlace
      let (s, letter, place, status) : State × Char × OptionPlace × Nat :=
        match nextOption letters.toList args place with
        | .error place => (s, '?', place, 1)
        | .ok next =>
          let s := (next.complaint.map s.sayPlainly).getD s
          (match next.value with
            | some value => s.assign "OPTARG" value
            | none => s.unassign "OPTARG", next.letter, next.place, 0)
      let s := s.assign "OPTIND" (toString place.argument)
      let s := { s with optionPlace := place }
      if s.jump.isSome then s
      else if !isName name.toList then s.refuse s!"{name}: bad variable name" 2
      else
        let s := s.assign name (String.ofList [letter])
        if s.jump.isSome then s else s.withStatus status
    | _ => s.refuse "Usage: getopts optstring var [arg...]" 2

end Emplace.Program.Shell
