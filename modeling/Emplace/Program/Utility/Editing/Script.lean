import Emplace.Program.Escape
import Emplace.Program.Regex
import Emplace.Program.Utility.Input

namespace Emplace.Program.Utility.Editing

structure Probe where
  pattern : Option Regex
  folds : Bool
  lines : Bool
  deriving DecidableEq, Repr, Inhabited

inductive Address
  | line (n : Nat)
  | every (first step : Nat)
  | last
  | fits (p : Probe)
  deriving DecidableEq, Repr, Inhabited

inductive Limit
  | at (a : Address)
  | behind (lines : Nat)
  | multiple (n : Nat)
  deriving DecidableEq, Repr, Inhabited

inductive Part
  | text (cs : List Char)
  | group (n : Nat)
  | upper
  | lower
  | plain
  | nextUpper
  | nextLower
  deriving DecidableEq, Repr, Inhabited

structure Substitution where
  probe : Probe
  parts : List Part
  first : Nat
  all : Bool
  prints : Bool
  file : Option String
  deriving DecidableEq, Repr, Inhabited

inductive When
  | always
  | replaced
  | unreplaced
  deriving DecidableEq, Repr, Inhabited

inductive Deed
  | opening
  | closing
  | label (name : String)
  | append (text : List Char)
  | insert (text : List Char)
  | change (text : List Char)
  | goTo (when_ : When) (label : String)
  | delete
  | deleteFirst
  | printName
  | get
  | getMore
  | hold
  | holdMore
  | list (width : Option Nat)
  | next
  | nextMore
  | print
  | printFirst
  | quit (code : Nat)
  | quitSilently (code : Nat)
  | readFile (path : String)
  | readLine (path : String)
  | substitute (s : Substitution)
  | translate (pairs : List (Char × Char))
  | writeFile (path : String)
  | writeFirst (path : String)
  | exchange
  | number
  | empty
  | nothing
  deriving DecidableEq, Repr, Inhabited

structure Command where
  first : Option Address
  limit : Option Limit
  turned : Bool
  deed : Deed
  deriving DecidableEq, Repr, Inhabited

structure Cursor where
  before : List Char
  rest : List Char
  deriving DecidableEq, Repr, Inhabited

structure Fault where
  message : String
  place : Nat
  deriving DecidableEq, Repr, Inhabited

abbrev Reader := StateT Cursor (Except Fault)

def refuse {α : Type} (message : String) : Reader α := fun c => .error ⟨message, c.before.length⟩

def nextChar : Reader (Option Char) := fun c =>
  match c.rest with
  | [] => .ok (none, c)
  | x :: rest => .ok (some x, ⟨x :: c.before, rest⟩)

def skimWhile (p : Char → Bool) : Reader (List Char) := fun c =>
  let (front, rest) := c.rest.span p
  .ok (front, ⟨front.reverse ++ c.before, rest⟩)

def peek : Reader (Option Char) := fun c => .ok (c.rest.head?, c)

def isGap (c : Char) : Bool := c == ' ' || c == '\t'

def nextFilled : Reader (Option Char) := do
  let _ ← skimWhile isGap
  nextChar

def bracketed : (bound : Nat) → (first : Bool) → List Char → Option (List Char × List Char)
  | 0, _, _ => none
  | _, _, [] => none
  | bound + 1, first, c :: rest =>
    let onward (front : List Char) (rest : List Char) :=
      (bracketed bound false rest).map fun (inside, rest) => (front ++ inside, rest)
    if c == ']' && !first then some ([c], rest)
    else if c == '\n' then none
    else
      match c, rest with
      | '[', d :: rest =>
        let inside := rest.takeWhile (· != ']')
        if (d == ':' || d == '.' || d == '=') && inside.getLast? == some d then
          onward (c :: d :: inside ++ [']']) (rest.drop (inside.length + 1))
        else onward [c] (d :: rest)
      | '\\', 'n' :: rest => onward ['\n'] rest
      | '\\', ']' :: _ => onward [c] rest
      | '\\', d :: rest => onward [c, d] rest
      | _, _ => onward [c] rest

def upToSign (sign : Char) (isPattern : Bool) : (bound : Nat) → List Char → List Char × Bool × List Char
  | 0, cs => ([], false, cs)
  | _, [] => ([], false, [])
  | bound + 1, c :: rest =>
    let onward (front : List Char) (rest : List Char) :=
      let (text, ends, rest) := upToSign sign isPattern bound rest
      (front ++ text, ends, rest)
    if c == '\n' then ([], false, c :: rest)
    else if c == sign then ([], true, rest)
    else if c == '\\' then
      match rest with
      | [] => ([], false, [])
      | d :: rest =>
        if isPattern && d == 'n' then onward ['\n'] rest
        else if d == '\n' || d == sign && !(d == '&' && !isPattern) then onward [d] rest
        else onward [c, d] rest
    else if isPattern && c == '[' then
      let negated := rest.head? == some '^'
      match bracketed (rest.length + 1) true (if negated then rest.drop 1 else rest) with
      | some (inside, rest) => onward ((if negated then ['[', '^'] else ['[']) ++ inside) rest
      | none => ([], false, [])
    else onward [c] rest

def delimited (sign : Char) (isPattern : Bool) (message : String) : Reader (List Char) := fun c =>
  let (text, ends, rest) := upToSign sign isPattern (c.rest.length + 1) c.rest
  let c : Cursor := ⟨(c.rest.take (c.rest.length - rest.length)).reverse ++ c.before, rest⟩
  if ends then .ok (text, c) else .error ⟨message, c.before.length⟩

def escape? (cs : List Char) : Option (Char × List Char) :=
  let numbered (base digits : Nat) (isDigit : Char → Bool) (rest : List Char) : Option (Char × List Char) :=
    let found := (rest.take digits).takeWhile isDigit
    if found.isEmpty then none else some (Char.ofNat (valueIn base found % 256), rest.drop found.length)
  match cs with
  | 'a' :: rest => some ('\x07', rest)
  | 'f' :: rest => some ('\x0c', rest)
  | 'v' :: rest => some ('\x0b', rest)
  | 't' :: rest => some ('\t', rest)
  | 'r' :: rest => some ('\r', rest)
  | 'd' :: rest => numbered 10 3 Char.isDigit rest
  | 'o' :: rest => numbered 8 3 isOctal rest
  | 'x' :: rest => numbered 16 2 isHex rest
  | 'c' :: c :: rest => some (Char.ofNat (c.toUpper.toNat ^^^ 64), rest)
  | _ => none

def patternText : (bound : Nat) → List Char → List Char
  | 0, _ => []
  | _, [] => []
  | bound + 1, '\\' :: rest =>
    match escape? rest, rest with
    | some (c, rest), _ => c :: patternText bound rest
    | none, d :: rest => '\\' :: d :: patternText bound rest
    | none, [] => ['\\']
  | bound + 1, c :: rest => c :: patternText bound rest

def plainText : (bound : Nat) → List Char → List Char
  | 0, _ => []
  | _, [] => []
  | bound + 1, '\\' :: rest =>
    match escape? rest, rest with
    | some (c, rest), _ => c :: plainText bound rest
    | none, 'n' :: rest => '\n' :: plainText bound rest
    | none, d :: rest => d :: plainText bound rest
    | none, [] => []
  | bound + 1, c :: rest => c :: plainText bound rest

def charactersOf (cs : List Char) : List Char := Raw.characters (Raw.bytesOf cs)

def partsOf : (bound : Nat) → List Char → List Part
  | 0, _ => []
  | _, [] => []
  | bound + 1, '&' :: rest => .group 0 :: partsOf bound rest
  | bound + 1, '\\' :: c :: rest =>
    let cases : List (Char × Part) :=
      [('U', .upper), ('L', .lower), ('E', .plain), ('u', .nextUpper), ('l', .nextLower)]
    match cases.lookup c, escape? (c :: rest) with
    | some part, _ => part :: partsOf bound rest
    | none, some (d, rest) => .text [d] :: partsOf bound rest
    | none, none =>
      if c.isDigit then .group (Text.digitValue c) :: partsOf bound rest
      else .text [if c == 'n' then '\n' else c] :: partsOf bound rest
  | bound + 1, c :: rest => .text [c] :: partsOf bound rest

def joinedParts : List Part → List Part
  | [] => []
  | p :: rest =>
    match p, joinedParts rest with
    | .text a, .text b :: more => .text (a ++ b) :: more
    | p, more => p :: more

def probeOf (extended : Bool) (cs : List Char) (folds lines : Bool) : Reader Probe :=
  if cs.isEmpty then return ⟨none, folds, lines⟩
  else
    match Regex.ofText ⟨extended, false⟩ (charactersOf (patternText (cs.length + 1) cs)) with
    | .ok r => return ⟨some r, folds, lines⟩
    | .error f => refuse f.text

def wholeNumber : Reader Nat := do return Text.digitsValue (← skimWhile Char.isDigit)

def addressFlags : (bound : Nat) → (folds lines : Bool) → Reader (Bool × Bool)
  | 0, folds, lines => return (folds, lines)
  | bound + 1, folds, lines => do
    let _ ← skimWhile isGap
    match ← peek with
    | some 'I' => do
      let _ ← nextChar
      addressFlags bound true lines
    | some 'M' => do
      let _ ← nextChar
      addressFlags bound folds true
    | _ => return (folds, lines)

def address? (extended : Bool) : Reader (Option Address) := do
  match ← peek with
  | some '$' =>
    let _ ← nextChar
    return some .last
  | some c =>
    if c.isDigit then
      let n ← wholeNumber
      let _ ← skimWhile isGap
      match ← peek with
      | some '~' =>
        let _ ← nextChar
        let _ ← skimWhile isGap
        let step ← wholeNumber
        return some (if step = 0 then .line n else .every n step)
      | _ => return some (.line n)
    else if c == '/' || c == '\\' then
      let _ ← nextChar
      let sign ← if c == '/' then pure (some c) else nextChar
      let text ← delimited (sign.getD '/') true "unterminated address regex"
      let (folds, lines) ← addressFlags 8 false false
      return some (.fits (← probeOf extended text folds lines))
    else return none
  | none => return none

def limit? (extended : Bool) : Reader (Option Limit) := do
  let sign ← peek
  if sign = some '+' || sign = some '~' then
    let _ ← nextChar
    let _ ← skimWhile isGap
    let n ← wholeNumber
    return some (if sign = some '+' then .behind n else .multiple n)
  else return (← address? extended).map .at

def commandEnd : Reader Unit := do
  let _ ← skimWhile isGap
  match ← peek with
  | none | some '\x7d' | some '#' => return ()
  | some c =>
    let _ ← nextChar
    if c == '\n' || c == ';' then return () else refuse "extra characters after command"

def alone (deed : Deed) : Reader Deed := do
  commandEnd
  return deed

def filePath : Reader String := do
  let _ ← skimWhile isGap
  let path ← skimWhile (· != '\n')
  if path.isEmpty then refuse "missing filename in r/R/w/W commands" else return String.ofList path

def labelName : Reader String := do
  let _ ← skimWhile isGap
  let name ← skimWhile fun c => !(Text.isBlank c || c == ';' || c == '\x7d')
  return String.ofList name

def textLine : (bound : Nat) → List Char → List Char × List Char × Bool
  | 0, cs => ([], cs, false)
  | _, [] => ([], [], false)
  | _, ['\\'] => ([], [], true)
  | bound + 1, '\\' :: c :: rest =>
    let (text, rest, isOpen) := textLine bound rest
    ('\\' :: c :: text, rest, isOpen)
  | bound + 1, c :: rest =>
    if c == '\n' then ([], rest, false)
    else
      let (text, rest, isOpen) := textLine bound rest
      (c :: text, rest, isOpen)

def lineText : Reader (List Char × Bool) := fun c =>
  let (text, rest, isOpen) := textLine (c.rest.length + 1) c.rest
  let text := plainText (text.length + 1) text ++ ['\n']
  .ok ((text, isOpen), ⟨(c.rest.take (c.rest.length - rest.length)).reverse ++ c.before, rest⟩)

def commandText : Reader (List Char × Bool) := do
  let _ ← skimWhile isGap
  match ← peek with
  | none => refuse "expected \\ after \x60a\x27, \x60c\x27 or \x60i\x27"
  | some '\\' =>
    let _ ← nextChar
    match ← peek with
    | none => return ([], true)
    | some '\n' =>
      let _ ← nextChar
      lineText
    | some _ => lineText
  | some _ => lineText

def statusNumber : Reader (Option Nat) := do
  let _ ← skimWhile isGap
  let digits ← skimWhile Char.isDigit
  return Text.digits? digits

structure Flags where
  first : Option Nat := none
  all : Bool := false
  prints : Bool := false
  folds : Bool := false
  lines : Bool := false
  file : Option String := none
  deriving DecidableEq, Repr, Inhabited

def substitutionFlags : (bound : Nat) → Flags → Reader Flags
  | 0, flags => return flags
  | bound + 1, flags => do
    match ← peek with
    | none | some '\x7d' | some '#' => return flags
    | some c =>
      let digits ← skimWhile Char.isDigit
      if !digits.isEmpty then
        if flags.first.isSome then refuse "multiple number options to \x60s\x27 command"
        if Text.digitsValue digits = 0 then refuse "number option to \x60s\x27 command may not be zero"
        substitutionFlags bound { flags with first := some (Text.digitsValue digits) }
      else
        let _ ← nextChar
        match c with
        | '\n' | ';' => return flags
        | 'i' | 'I' => substitutionFlags bound { flags with folds := true }
        | 'm' | 'M' => substitutionFlags bound { flags with lines := true }
        | 'g' =>
          if flags.all then refuse "multiple \x60g\x27 options to \x60s\x27 command"
          substitutionFlags bound { flags with all := true }
        | 'p' =>
          if flags.prints then refuse "multiple \x60p\x27 options to \x60s\x27 command"
          substitutionFlags bound { flags with prints := true }
        | 'w' => return { flags with file := some (← filePath) }
        | ' ' => substitutionFlags bound flags
        | _ => refuse "unknown option to \x60s\x27"

def greatestGroup (parts : List Part) : Nat :=
  (parts.map fun part => match part with
    | .group n => n
    | _ => 0).foldl max 0

def substitution (extended : Bool) : Reader Deed := do
  let unterminated := "unterminated \x60s\x27 command"
  match ← nextChar with
  | none => refuse unterminated
  | some sign =>
    let pattern ← delimited sign true unterminated
    let text ← delimited sign false unterminated
    let flags ← substitutionFlags 0x10000 {}
    let probe ← probeOf extended pattern flags.folds flags.lines
    let parts := (joinedParts (partsOf (text.length + 1) text)).map fun part => match part with
      | .text cs => Part.text (charactersOf cs)
      | part => part
    match probe.pattern with
    | some r =>
      if r.groupCount < greatestGroup parts then
        refuse s!"invalid reference \\{greatestGroup parts} on \x60s\x27 command\x27s RHS"
    | none => pure ()
    return .substitute ⟨probe, parts, flags.first.getD 1, flags.all, flags.prints, flags.file⟩

def translation : Reader Deed := do
  let unterminated := "unterminated \x60y\x27 command"
  match ← nextChar with
  | none => refuse unterminated
  | some sign =>
    let source ← delimited sign false unterminated
    let target ← delimited sign false unterminated
    let characters (cs : List Char) : List Char := charactersOf (plainText (cs.length + 1) cs)
    let (a, b) := (characters source, characters target)
    if a.length ≠ b.length then refuse "strings for \x60y\x27 command are different lengths"
    commandEnd
    return .translate (a.zip b)

def deedOf (extended : Bool) (blocks : Nat) (hasAddress hasLimit : Bool) (c : Char) : Reader (Deed × Bool) := do
  let simple : List (Char × Deed) :=
    [('=', .number), ('d', .delete), ('D', .deleteFirst), ('F', .printName), ('g', .get), ('G', .getMore),
      ('h', .hold), ('H', .holdMore), ('n', .next), ('N', .nextMore), ('p', .print), ('P', .printFirst),
      ('x', .exchange), ('z', .empty)]
  let closed (deed : Reader Deed) : Reader (Deed × Bool) := do return (← deed, false)
  match simple.lookup c with
  | some deed => closed (alone deed)
  | none =>
    match c with
    | '#' =>
      if hasAddress then refuse "comments don\x27t accept any addresses"
      let _ ← skimWhile (· != '\n')
      return (.nothing, false)
    | ':' =>
      if hasAddress then refuse ": doesn\x27t want any addresses"
      let name ← labelName
      if name = "" then refuse "\":\" lacks a label"
      return (.label name, false)
    | '\x7b' => return (.opening, false)
    | '\x7d' =>
      if blocks = 0 then refuse "unexpected \x60\x7d\x27"
      if hasAddress then refuse "\x7d doesn\x27t want any addresses"
      closed (alone .closing)
    | 'a' | 'i' | 'c' =>
      let (text, isOpen) ← commandText
      return (if c == 'a' then .append text else if c == 'i' then .insert text else .change text, isOpen)
    | 'b' => return (.goTo .always (← labelName), false)
    | 't' => return (.goTo .replaced (← labelName), false)
    | 'T' => return (.goTo .unreplaced (← labelName), false)
    | 'l' =>
      let width ← statusNumber
      closed (alone (.list width))
    | 'q' | 'Q' =>
      if hasLimit then refuse "command only uses one address"
      let code ← statusNumber
      closed (alone (if c == 'q' then .quit (code.getD 0 % 256) else .quitSilently (code.getD 0 % 256)))
    | 'r' => return (.readFile (← filePath), false)
    | 'R' => return (.readLine (← filePath), false)
    | 'w' => return (.writeFile (← filePath), false)
    | 'W' => return (.writeFirst (← filePath), false)
    | 's' => closed (substitution extended)
    | 'y' => closed translation
    | 'v' =>
      let _ ← skimWhile fun c => c != '\n' && c != ';'
      closed (alone .nothing)
    | _ => refuse s!"unknown command: \x60{c}\x27"

def Address.isZero : Option Address → Bool
  | some (.line 0) => true
  | _ => false

def command (extended : Bool) (blocks : Nat) : Reader (Command × Bool) := do
  let first ← address? extended
  match first, ← peek with
  | none, some '+' | none, some '~' =>
    let _ ← nextChar
    let _ ← wholeNumber
    refuse "invalid usage of +N or ~N as first address"
  | _, _ => pure ()
  let mut sign ← nextFilled
  let mut limit : Option Limit := none
  if first.isSome && sign = some ',' then
    let _ ← skimWhile isGap
    limit ← limit? extended
    if limit.isNone then
      let _ ← nextChar
      refuse "unexpected \x60,\x27"
    sign ← nextFilled
  let isPattern := match limit with
    | some (.at (.fits _)) => true
    | _ => false
  if Address.isZero first && !isPattern then refuse "invalid usage of line address 0"
  let turned := sign = some '!'
  if turned then
    sign ← nextFilled
    if sign = some '!' then refuse "multiple \x60!\x27s"
  match sign with
  | none => refuse "missing command"
  | some c =>
    let (deed, isOpen) ← deedOf extended blocks first.isSome limit.isSome c
    return (⟨first, limit, turned, deed⟩, isOpen)

def Deed.extended (more : List Char) : Deed → Deed
  | .append text => .append (text ++ more)
  | .insert text => .insert (text ++ more)
  | .change text => .change (text ++ more)
  | deed => deed

def blocksIn (read : List Command) : Nat :=
  read.foldr
    (fun c blocks => match c.deed with
      | .opening => blocks + 1
      | .closing => blocks - 1
      | _ => blocks)
    0

def commands (extended : Bool) : (bound : Nat) → List Command → (isOpen : Bool) → Reader (List Command × Bool)
  | 0, read, isOpen => return (read, isOpen)
  | bound + 1, read, true => do
    match ← peek with
    | none => return (read, true)
    | some _ =>
      let (text, isOpen) ← lineText
      match read with
      | last :: others => commands extended bound ({ last with deed := last.deed.extended text } :: others) isOpen
      | [] => commands extended bound [] isOpen
  | bound + 1, read, false => do
    let _ ← skimWhile fun c => c == ';' || Text.isBlank c
    match ← peek with
    | none => return (read, false)
    | some _ =>
      let (next, isOpen) ← command extended (blocksIn read)
      commands extended bound (next :: read) isOpen

inductive Source
  | expression (number : Nat)
  | file (path : String)
  deriving DecidableEq, Repr, Inhabited

def Source.fault (source : Source) (text : List Char) (f : Fault) : String :=
  match source with
  | .expression n => s!"-e expression #{n}, char {f.place}: {f.message}"
  | .file path =>
    let line := (text.take f.place).count '\n' + 1
    s!"file {path} line {line}: {f.message}"

def countOf (deed : Deed) (commands : List Command) : Nat := (commands.filter fun c => c.deed = deed).length

def programOf (extended : Bool) (sources : List (Source × List Char)) : Except (String × Nat) (List Command) := do
  let (read, _, lastOpened) ← sources.zipIdx.foldlM
    (fun (state : List Command × Bool × Nat) ((source, text), i) =>
      match (commands extended (text.length + 2) state.1 state.2.1).run ⟨[], text⟩ with
      | .ok ((read, isOpen), _) =>
        .ok (read, isOpen, if countOf .opening state.1 < countOf .opening read then i + 1 else state.2.2)
      | .error f => .error (source.fault text f, 1))
    (([] : List Command), false, 0)
  let labels := read.filterMap fun c => match c.deed with
    | .label name => some name
    | _ => none
  let missing := read.reverse.findSome? fun c => match c.deed with
    | .goTo _ name => if name = "" || labels.contains name then none else some name
    | _ => none
  if countOf .closing read < countOf .opening read then
    .error (s!"-e expression #{lastOpened}, char 0: unmatched \x60\x7b\x27", 1)
  else
    match missing with
    | some name => .error (s!"can\x27t find label for jump to \x60{name}\x27", 4)
    | none => return read.reverse

end Emplace.Program.Utility.Editing
