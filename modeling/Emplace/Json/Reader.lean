import Emplace.Json.Value
import Emplace.Text.Hex
import Emplace.Text.Numeral

/-!
# Reading JSON text

Readers take a value off the front of a text and return what follows it. The text is made of symbols, so
that stray bytes are met where they stand: they are refused inside a wanted string and passed over inside
an ignored one. Of several faults in a text the first one in reading order is reported.
-/

namespace Emplace.Json

open Text (Symbol)

abbrev Reader (α : Type) := List Symbol → Except Fault (α × List Symbol)

namespace Reader

def yield (a : α) : Reader α := fun input => .ok (a, input)

def fail (fault : Fault) : Reader α := fun _ => .error fault

def andThen (first : Reader α) (next : α → Reader β) : Reader β := fun input =>
  match first input with
  | .error fault => .error fault
  | .ok (a, rest) => next a rest

def map (f : α → β) (reader : Reader α) : Reader β := reader.andThen fun a => yield (f a)

instance : Monad Reader where
  pure := yield
  bind := andThen

def iterateWithin (step : σ → Reader (σ ⊕ α)) : Nat → σ → Reader α
  | 0, _ => fail .early
  | bound + 1, state => fun input =>
    match step state input with
    | .error fault => .error fault
    | .ok (.inl state', rest) => iterateWithin step bound state' rest
    | .ok (.inr a, rest) => .ok (a, rest)

def iterate (step : σ → Reader (σ ⊕ α)) (start : σ) : Reader α := fun input =>
  iterateWithin step (input.length + 1) start input

/-! ## Blanks and fixed words -/

def isBlank (s : Symbol) : Bool :=
  s == .char ' ' || s == .char '\n' || s == .char '\t' || s == .char '\r'

def skipBlanks (input : List Symbol) : List Symbol := input.dropWhile isBlank

def afterBlanks (reader : Reader α) : Reader α := fun input => reader (skipBlanks input)

def word : List Char → Reader Unit
  | [] => .yield ()
  | c :: cs => fun input =>
    match input with
    | [] => .error .early
    | s :: rest => if s = .char c then word cs rest else .error .malformed

/-! ## Numbers -/

/-- Whether a value is wanted or passed over. Only a wanted string has to be proper text, and only of a wanted
number it is told apart that the text ended in it. -/
inductive Care
  | wanted
  | ignored
  deriving DecidableEq, Repr, Inhabited

def Care.faultAtEnd : Care → Fault
  | .wanted => .early
  | .ignored => .malformed

structure Numeral where
  negative : Bool
  whole : List Char
  fraction : List Char
  hasFraction : Bool
  exponent : Option (Bool × List Char)
  deriving DecidableEq, Repr, Inhabited

def isDigit : Symbol → Bool
  | .char c => c.isDigit
  | .stray _ => false

def digitRun (input : List Symbol) : List Char × List Symbol :=
  ((input.takeWhile isDigit).filterMap Symbol.char?, input.dropWhile isDigit)

def someDigits (care : Care) : Reader (List Char) := fun input =>
  match digitRun input with
  | ([], []) => .error care.faultAtEnd
  | ([], _ :: _) => .error .malformed
  | (digits, rest) => .ok (digits, rest)

def wholeDigits (care : Care) : Reader (List Char) := fun input =>
  match someDigits care input with
  | .ok ('0' :: _ :: _, _) => .error .malformed
  | outcome => outcome

def fractionPart (care : Care) : Reader (Option (List Char)) := fun input =>
  match input with
  | .char '.' :: rest => (someDigits care).map some rest
  | _ => .ok (none, input)

def exponentPart (care : Care) : Reader (Option (Bool × List Char)) := fun input =>
  match input with
  | .char 'e' :: rest | .char 'E' :: rest =>
    match rest with
    | .char '-' :: digits => (someDigits care).map (fun ds => some (true, ds)) digits
    | .char '+' :: digits => (someDigits care).map (fun ds => some (false, ds)) digits
    | _ => (someDigits care).map (fun ds => some (false, ds)) rest
  | _ => .ok (none, input)

def numeral (care : Care) : Reader Numeral := fun input =>
  let (negative, body) := match input with
    | .char '-' :: rest => (true, rest)
    | _ => (false, input)
  (do
    let whole ← wholeDigits care
    let fraction ← fractionPart care
    let exponent ← exponentPart care
    return ⟨negative, whole, fraction.getD [], fraction.isSome, exponent⟩ : Reader Numeral) body

/-- The number that a numeral stands for: whole if it fits 64 bits, else the nearest real that the digits
kept allow. -/
inductive Number
  | natural (n : UInt64)
  | negative (n : Int64)
  | real (x : Float)
  deriving Repr, Inhabited

def gather (start : Nat) : List Char → Nat × Nat
  | [] => (start, 0)
  | c :: cs =>
    let next := 10 * start + Text.digitValue c
    if next < UInt64.size then gather next cs else (start, (c :: cs).length)

def powerOfTen (n : Nat) : Float := Float.ofScientific 1 false n

def scaled (significand : Float) (exponent : Int) : Nat → Option Float
  | 0 => some significand
  | bound + 1 =>
    if exponent.natAbs ≤ 308 then
      if 0 ≤ exponent then
        let x := significand * powerOfTen exponent.natAbs
        if x.isInf then none else some x
      else some (significand / powerOfTen exponent.natAbs)
    else if significand == 0 then some significand
    else if 0 ≤ exponent then none
    else scaled (significand / powerOfTen 308) (exponent + 308) bound

def maxExponent : Nat := 0x7fffffff

def realOf (negative : Bool) (significand : Nat) (exponent : Int) : Except Fault Number :=
  match scaled (UInt64.ofNat significand).toFloat exponent 16 with
  | some x => .ok (.real (if negative then -x else x))
  | none => .error .malformed

/-- The value of a numeral. Digits that no longer fit the significand count as places if they stand before
the point, and are dropped behind it. -/
def Numeral.value (n : Numeral) : Except Fault Number :=
  let (whole, wholeLost) := gather 0 n.whole
  let (significand, fractionLost) := gather whole n.fraction
  let place : Int := (wholeLost : Int) - (n.fraction.length - fractionLost : Nat)
  match n.exponent with
  | some (down, digits) =>
    let exponent := Text.digitsValue digits
    if maxExponent < exponent then
      if significand ≠ 0 ∧ ¬down then .error .malformed
      else .ok (.real (if n.negative then -0.0 else 0.0))
    else realOf n.negative significand (if down then place - exponent else place + exponent)
  | none =>
    if n.hasFraction ∨ wholeLost ≠ 0 then realOf n.negative significand place
    else if ¬n.negative then .ok (.natural (UInt64.ofNat significand))
    else if 0 < significand ∧ significand ≤ 0x8000000000000000 then .ok (.negative (Int64.ofInt (-significand)))
    else .ok (.real (-(UInt64.ofNat significand).toFloat))

def number : Reader Number := fun input =>
  match numeral .wanted input with
  | .error fault => .error fault
  | .ok (n, rest) => n.value.map (·, rest)

/-! ## Strings -/

def hexFour (a b c d : Symbol) : Option Nat := do
  let a ← a.char? >>= Text.hexValue?
  let b ← b.char? >>= Text.hexValue?
  let c ← c.char? >>= Text.hexValue?
  let d ← d.char? >>= Text.hexValue?
  return 4096 * a + 256 * b + 16 * c + d

/-- Four hexadecimal digits. Fewer than four bytes before the end mean that the text ended early. -/
def hexEscape : Reader Nat := fun input =>
  match input with
  | a :: b :: c :: d :: rest =>
    match hexFour a b c d with
    | some n => .ok (n, rest)
    | none => .error .malformed
  | few => .error (if Symbol.totalWidth few < 4 then .early else .malformed)

def isLead (n : Nat) : Bool := 0xD800 ≤ n && n ≤ 0xDBFF

def isTrail (n : Nat) : Bool := 0xDC00 ≤ n && n ≤ 0xDFFF

def trailEscape (lead : Nat) : Reader Char := do
  word ['\\', 'u']
  let trail ← hexEscape
  if isTrail trail then return Char.ofNat (0x10000 + (lead - 0xD800) * 0x400 + (trail - 0xDC00))
  else .fail .malformed

def codeEscape (care : Care) : Reader Char := do
  let n ← hexEscape
  match care with
  | .ignored => return '\x00'
  | .wanted =>
    if isLead n then trailEscape n
    else if isTrail n then .fail .malformed
    else return Char.ofNat n

def letterEscape? : Char → Option Char
  | '"' => some '"'
  | '\\' => some '\\'
  | '/' => some '/'
  | 'b' => some '\x08'
  | 'f' => some '\x0c'
  | 'n' => some '\n'
  | 'r' => some '\r'
  | 't' => some '\t'
  | _ => none

def escape (care : Care) : Reader Char := fun input =>
  match input with
  | [] => .error .early
  | .stray _ :: _ => .error .malformed
  | .char 'u' :: rest => codeEscape care rest
  | .char c :: rest =>
    match letterEscape? c with
    | some e => .ok (e, rest)
    | none => .error .malformed

def stringStep (care : Care) (read : List Symbol) : Reader (List Symbol ⊕ List Symbol) := fun input =>
  match input with
  | [] => .error .early
  | .char '"' :: rest => .ok (.inr read.reverse, rest)
  | .char '\\' :: rest => (escape care).map (fun c => .inl (.char c :: read)) rest
  | .char c :: rest => if c.toNat < 0x20 then .error .malformed else .ok (.inl (.char c :: read), rest)
  | .stray b :: rest => .ok (.inl (.stray b :: read), rest)

def stringBody : Reader String := do
  let symbols ← .iterate (stringStep .wanted) []
  match symbols.mapM Symbol.char? with
  | some cs => return String.ofList cs
  | none => .fail .malformed

def skipStringBody : Reader Unit := (Reader.iterate (stringStep .ignored) []).map fun _ => ()

/-! ## Values of the wrong kind -/

def mismatch : Reader α := fun input =>
  match input with
  | [] => .error .early
  | .char 'n' :: rest => (word ['u', 'l', 'l']).andThen (fun _ => .fail .mismatched) rest
  | .char 't' :: rest => (word ['r', 'u', 'e']).andThen (fun _ => .fail .mismatched) rest
  | .char 'f' :: rest => (word ['a', 'l', 's', 'e']).andThen (fun _ => .fail .mismatched) rest
  | .char '"' :: rest => stringBody.andThen (fun _ => .fail .mismatched) rest
  | .char '[' :: _ | .char '{' :: _ => .error .mismatched
  | .char '-' :: _ => number.andThen (fun _ => .fail .mismatched) input
  | s :: _ =>
    if isDigit s then number.andThen (fun _ => .fail .mismatched) input else .error .malformed

/-! ## Wanted values -/

def string : Reader String := .afterBlanks fun input =>
  match input with
  | .char '"' :: rest => stringBody rest
  | _ => mismatch input

def flag : Reader Bool := .afterBlanks fun input =>
  match input with
  | .char 't' :: rest => (word ['r', 'u', 'e']).map (fun _ => true) rest
  | .char 'f' :: rest => (word ['a', 'l', 's', 'e']).map (fun _ => false) rest
  | _ => mismatch input

def numberThat (accept : Number → Option α) : Reader α := .afterBlanks fun input =>
  match input with
  | .char '-' :: _ => taken input
  | s :: _ => if isDigit s then taken input else mismatch input
  | [] => .error .early
where
  taken : Reader α := number.andThen fun n =>
    match accept n with
    | some a => .yield a
    | none => .fail .mismatched

def optional (reader : Reader α) : Reader (Option α) := .afterBlanks fun input =>
  match input with
  | [] => .error .early
  | .char 'n' :: rest => (word ['u', 'l', 'l']).map (fun _ => none) rest
  | _ => reader.map some input

def another (first : Bool) : Reader Bool := .afterBlanks fun input =>
  match input with
  | [] => .error .early
  | .char ']' :: _ => .ok (false, input)
  | .char ',' :: rest =>
    if first then .ok (true, input)
    else
      match skipBlanks rest with
      | [] => .error .early
      | .char ']' :: _ => .error .malformed
      | rest => .ok (true, rest)
  | _ => if first then .ok (true, input) else .error .malformed

def listEnd : Reader Unit := .afterBlanks fun input =>
  match input with
  | [] => .error .early
  | .char ']' :: rest => .ok ((), rest)
  | _ => .error .malformed

def listStep (element : Reader α) (read : List α) : Reader (List α ⊕ List α) := do
  if ← another read.isEmpty then
    let a ← element
    return .inl (a :: read)
  else
    listEnd
    return .inr read.reverse

def list (element : Reader α) : Reader (List α) := .afterBlanks fun input =>
  match input with
  | .char '[' :: rest => Reader.iterate (listStep element) [] rest
  | _ => mismatch input

/-! ## Ignored values -/

inductive Frame
  | inList
  | inObject
  deriving DecidableEq, Repr, Inhabited

def skipKey : Reader Unit := .afterBlanks fun input =>
  match input with
  | [] => .error .early
  | .char '"' :: rest =>
    (do
      skipStringBody
      colon : Reader Unit) rest
  | _ => .error .malformed
where
  colon : Reader Unit := .afterBlanks fun input =>
    match input with
    | [] => .error .early
    | .char ':' :: rest => .ok ((), rest)
    | _ => .error .malformed

inductive Awaited
  | value
  | opened
  | continuation
  deriving DecidableEq, Repr, Inhabited

def skipFront (open? : List Frame) : Reader (Awaited × List Frame) := .afterBlanks fun input =>
  let finished := (Awaited.continuation, open?)
  match input with
  | [] => .error .early
  | .char 'n' :: rest => (word ['u', 'l', 'l']).map (fun _ => finished) rest
  | .char 't' :: rest => (word ['r', 'u', 'e']).map (fun _ => finished) rest
  | .char 'f' :: rest => (word ['a', 'l', 's', 'e']).map (fun _ => finished) rest
  | .char '"' :: rest => skipStringBody.map (fun _ => finished) rest
  | .char '[' :: rest => .ok ((.opened, .inList :: open?), rest)
  | .char '{' :: rest => .ok ((.opened, .inObject :: open?), rest)
  | .char '-' :: _ => (numeral .ignored).map (fun _ => finished) input
  | s :: _ => if isDigit s then (numeral .ignored).map (fun _ => finished) input else .error .malformed

def Frame.lead : Frame → Reader Unit
  | .inList => .yield ()
  | .inObject => skipKey

def Frame.closing : Frame → Char
  | .inList => ']'
  | .inObject => '}'

def skipStep : Awaited × List Frame → Reader ((Awaited × List Frame) ⊕ Unit)
  | (.value, frames) => (skipFront frames).map .inl
  | (.continuation, []) => .yield (.inr ())
  | (.opened, []) => .yield (.inr ())
  | (awaited, frame :: frames) => .afterBlanks fun input =>
    match input with
    | [] => .error .early
    | s :: rest =>
      if s = .char frame.closing then .ok (.inl (.continuation, frames), rest)
      else if awaited = .opened then frame.lead.map (fun _ => .inl (.value, frame :: frames)) input
      else if s = .char ',' then frame.lead.map (fun _ => .inl (.value, frame :: frames)) rest
      else .error .malformed

def skipValue : Reader Unit := fun input =>
  Reader.iterateWithin skipStep (4 * (input.length + 1)) (.value, []) input

/-! ## Objects -/

def nextKey (first : Bool) : Reader (Option String) := .afterBlanks fun input =>
  match input with
  | [] => .error .early
  | .char '}' :: _ => .ok (none, input)
  | .char ',' :: rest =>
    if first then .error .malformed
    else
      match skipBlanks rest with
      | [] => .error .early
      | .char '"' :: rest => stringBody.map some rest
      | _ => .error .malformed
  | .char '"' :: rest => if first then stringBody.map some rest else .error .malformed
  | _ => .error .malformed

def colon : Reader Unit := skipKey.colon

def objectEnd : Reader Unit := .afterBlanks fun input =>
  match input with
  | [] => .error .early
  | .char '}' :: rest => .ok ((), rest)
  | _ => .error .malformed

def readAll (reader : Reader α) (input : List Symbol) : Except Fault α :=
  match reader input with
  | .error fault => .error fault
  | .ok (a, rest) => if (skipBlanks rest).isEmpty then .ok a else .error .malformed

end Reader

end Emplace.Json
