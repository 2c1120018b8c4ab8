import Emplace.Program.Pattern
import Emplace.Program.Shell.Arithmetic
import Emplace.Program.Shell.State

namespace Emplace.Program.Shell

inductive Glyph
  | plain (c : Char)
  | filled (c : Char)
  | quoted (c : Char)
  | quotes
  | boundary
  deriving DecidableEq, Repr, Inhabited

def Glyph.char? : Glyph → Option Char
  | .plain c | .filled c | .quoted c => some c
  | .quotes | .boundary => none

def Glyph.asFilled : Glyph → Glyph
  | .plain c => .filled c
  | g => g

def textOf (gs : List Glyph) : String := String.ofList (gs.filterMap Glyph.char?)

/-- The marks of glyphs in a pattern. A backslash that was filled in makes the character behind it mean itself. -/
def marksOf : List Glyph → List Mark
  | [] => []
  | .filled '\\' :: .filled c :: rest | .filled '\\' :: .plain c :: rest | .filled '\\' :: .quoted c :: rest =>
    ⟨c, true⟩ :: marksOf rest
  | .plain c :: rest | .filled c :: rest => ⟨c, false⟩ :: marksOf rest
  | .quoted c :: rest => ⟨c, true⟩ :: marksOf rest
  | .quotes :: rest | .boundary :: rest => marksOf rest

def patternOf (gs : List Glyph) : Pattern := Pattern.ofMarks (gs.length + 1) (marksOf gs)

structure Separators where
  blanks : List Char
  others : List Char
  deriving DecidableEq, Repr, Inhabited

def separatorsOf (listed : String) : Separators :=
  let isSpace (c : Char) : Bool := c == ' ' || c == '\t' || c == '\n'
  ⟨listed.toList.filter isSpace, listed.toList.filter fun c => !isSpace c⟩

def State.separators (s : State) : Separators := separatorsOf ((s.bindings.lookup "IFS").getD " \t\n")

inductive Begun
  | nothing
  | passed
  | field (reversed : List Glyph)
  deriving DecidableEq, Repr, Inhabited

def Begun.reversed : Begun → List Glyph
  | .field gs => gs
  | _ => []

def Begun.ended : Begun → List (List Glyph)
  | .field gs => [gs.reverse]
  | _ => []

def fieldsFrom (separators : Separators) : Begun → List Glyph → List (List Glyph)
  | begun, [] => begun.ended
  | begun, g :: gs =>
    let onward := fieldsFrom separators (.field (g :: begun.reversed)) gs
    match g with
    | .plain _ | .quoted _ => onward
    | .quotes => fieldsFrom separators (.field begun.reversed) gs
    | .boundary => begun.ended ++ fieldsFrom separators .nothing gs
    | .filled c =>
      if separators.blanks.contains c then
        begun.ended ++ fieldsFrom separators (if begun = .nothing then .nothing else .passed) gs
      else if separators.others.contains c then
        (if begun = .nothing then [[]] else begun.ended) ++ fieldsFrom separators .nothing gs
      else onward

def fieldsOf (separators : Separators) (gs : List Glyph) : List (List Glyph) := fieldsFrom separators .nothing gs

inductive Use
  | plain
  | length
  | instead (orEmpty : Bool) (sign : Char) (word : List Char)
  | cut (front longest : Bool) (pattern : List Char)
  deriving DecidableEq, Repr, Inhabited

def use? (body : List Char) : Option (String × Use) :=
  let signs := ['-', '=', '?', '+']
  let read (body : List Char) : Option (String × List Char) :=
    match body with
    | c :: rest =>
      if specialNames.contains c then some (c.toString, rest)
      else
        let name := body.takeWhile (if c.isDigit then Char.isDigit else isNameChar)
        if name.isEmpty then none else some (String.ofList name, body.drop name.length)
    | [] => none
  match body with
  | '#' :: c :: rest =>
    if (signs ++ ['%', ':']).contains c then none
    else (read (c :: rest)).bind fun (name, rest) => if rest.isEmpty then some (name, .length) else none
  | _ =>
    (read body).bind fun (name, rest) =>
      match rest with
      | [] => some (name, .plain)
      | '%' :: '%' :: w => some (name, .cut false true w)
      | '%' :: w => some (name, .cut false false w)
      | '#' :: '#' :: w => some (name, .cut true true w)
      | '#' :: w => some (name, .cut true false w)
      | ':' :: sign :: w => if signs.contains sign then some (name, .instead true sign w) else none
      | sign :: w => if signs.contains sign then some (name, .instead false sign w) else none

inductive Tildes
  | nowhere
  | start
  | colons
  deriving DecidableEq, Repr, Inhabited

def homeOf? (s : State) (user : String) : Option String :=
  if user = "" then s.bindings.lookup "HOME"
  else
    let rows := (Raw.ofBytes ((s.disk.read "/etc/passwd").toOption.getD [])).splitOn "\n"
    rows.findSome? fun row =>
      match row.splitOn ":" with
      | name :: _ :: _ :: _ :: _ :: home :: _ => if name = user then some home else none
      | _ => none

def withHomes (s : State) (tildes : Tildes) : (bound : Nat) → (atStart : Bool) → Word → Word
  | 0, _, w => w
  | _, _, [] => []
  | bound + 1, atStart, p :: rest =>
    let isEnd (p : Piece) : Bool := p = .char '/' false || tildes = .colons && p = .char ':' false
    let user := rest.takeWhile fun p => !isEnd p
    let home := if atStart && p = .char '~' false then (Word.plain? user).bind (homeOf? s) else none
    match home with
    | some text =>
      .quotes :: text.toList.map (.char · true) ++ withHomes s tildes bound false (rest.drop user.length)
    | none => p :: withHomes s tildes bound (tildes = .colons && p = .char ':' false) rest

def Word.withHomes (w : Word) (s : State) (tildes : Tildes) : Word :=
  if tildes = .nowhere then w else Shell.withHomes s tildes (w.length + 1) true w

abbrev Capture := (backquoted : Bool) → State → List Char → State × Bytes

def withoutLineEnds (bytes : Bytes) : String :=
  Raw.ofBytes ((Text.dropEndWhile (· == 10) bytes).filter (· != 0))

def filledIn (quoted : Bool) (text : String) : List Glyph :=
  text.toList.map fun c => if quoted then .quoted c else .filled c

def allParameters (quoted : Bool) (s : State) : List Glyph :=
  [Glyph.boundary].intercalate (s.positional.map fun t => (if quoted then [.quotes] else []) ++ filledIn quoted t)

def assignNumbers (s : State) (assigned : Arithmetic.Variables) : State :=
  let s := assigned.reverse.foldl (fun s (name, value) => if s.jump.isSome then s else s.assign name value) s
  if s.jump = some .refused then { s with jump := some .exit } else s

def expand (capture : Capture) : (depth : Nat) → Tildes → State → Word → State × List Glyph
  | 0, _, s, _ => (s, [])
  | depth + 1, tildes, s, w =>
    let filled (tildes : Tildes) (s : State) (w : Except Fault Word) : State × List Glyph :=
      match w with
      | .ok w => expand capture depth tildes s w
      | .error f => (s.giveUp s!"Syntax error: {f.text}" 2, [])
    let inner (s : State) (quoted : Bool) (text : List Char) : State × List Glyph :=
      if quoted then filled .nowhere s (quotedPieces (quotesDropped text)) else filled .start s (wholePieces text)
    let instead (s : State) (quoted : Bool) (text : List Char) : State × List Glyph :=
      let (s, gs) := inner s quoted text
      (s, gs.map Glyph.asFilled)
    let parameter (s : State) (name : String) (use : Use) (quoted : Bool) : State × List Glyph :=
      let value := s.value? name
      match use with
      | .plain =>
        if name = "@" || (name = "*" && !quoted) then (s, allParameters quoted s)
        else if name = "*" then
          let listed := (s.bindings.lookup "IFS").getD " "
          (s, filledIn quoted ((String.ofList (listed.toList.take 1)).intercalate s.positional))
        else
          match value with
          | some text => (s, filledIn quoted text)
          | none =>
            if s.isOn 'u' && name ≠ "*" then (s.giveUp s!"{name}: parameter not set" 2, []) else (s, [])
      | .length =>
        if s.isOn 'u' && value.isNone && name ≠ "@" && name ≠ "*" then
          (s.giveUp s!"{name}: parameter not set" 2, [])
        else (s, filledIn quoted (toString (value.getD "").length))
      | .cut front longest text =>
        let (s, gs) := inner s false text
        if s.isOn 'u' && value.isNone && name ≠ "@" && name ≠ "*" then
          (s.giveUp s!"{name}: parameter not set" 2, [])
        else
          let p := patternOf gs
          let cs := (value.getD "").toList
          (s, filledIn quoted (String.ofList (if front then p.withoutStart longest cs else p.withoutEnd longest cs)))
      | .instead orEmpty sign text =>
        match value.filter fun v => !(orEmpty && v.isEmpty), sign with
        | some _, '+' => instead s quoted text
        | none, '+' => (s, [])
        | some v, _ =>
          if name = "@" || (name = "*" && !quoted) then (s, allParameters quoted s) else (s, filledIn quoted v)
        | none, '-' => instead s quoted text
        | none, '=' =>
          let (s, gs) := inner s quoted text
          if s.jump.isSome then (s, [])
          else if !isName name.toList then (s.giveUp s!"{name}: bad variable name" 2, [])
          else
            let s := s.assign name (textOf gs)
            (if s.jump = some .refused then { s with jump := some .exit } else s, filledIn quoted (textOf gs))
        | none, _ =>
          let (s, gs) := inner s quoted text
          let standard := if orEmpty then "parameter not set or null" else "parameter not set"
          let message := if gs.isEmpty then standard else textOf gs
          (s.giveUp s!"{name}: {message}" 2, [])
    let piece (s : State) (p : Piece) : State × List Glyph :=
      match p with
      | .char c quoted => (s, [if quoted then .quoted c else .plain c])
      | .quotes => (s, [.quotes])
      | .output script backquoted quoted =>
        let (s, bytes) := capture backquoted s script
        (s, filledIn quoted (withoutLineEnds bytes))
      | .number expression quoted =>
        let (s, gs) := filled .nowhere s (quotedPieces (quotesEscaped expression))
        if s.jump.isSome then (s, [])
        else
          match Arithmetic.evaluate s.bindings (textOf gs).toList with
          | .ok (n, bindings) =>
            (assignNumbers s (bindings.take (bindings.length - s.bindings.length)), filledIn quoted (toString n))
          | .error (.value text) => (s.giveUp s!"Illegal number: {text}" 2, [])
          | .error .overflow => ({ s with jump := some (.killed 8) }, [])
          | .error f =>
            (s.giveUp (s!"arithmetic expression: {f.text}: " ++ "\"" ++ textOf gs ++ "\"") 2, [])
      | .parameter body quoted =>
        match use? body with
        | some (name, use) => parameter s name use quoted
        | none => (s.giveUp "Bad substitution" 2, [])
    if w = [.quotes, .parameter ['@'] true] && s.positional.isEmpty then (s, [])
    else
      (w.withHomes s tildes).foldl
        (fun (s, gs) p =>
          if s.jump.isSome then (s, gs)
          else
            let (s, more) := piece s p
            (s, gs ++ more))
        (s, [])

end Emplace.Program.Shell
