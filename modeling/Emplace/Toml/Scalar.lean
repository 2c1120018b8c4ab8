import Emplace.Text.Hex
import Emplace.Text.Numeral
import Emplace.Text.Blank
import Emplace.Toml.Value

namespace Emplace.Toml

abbrev Reader (α : Type) := List Char → Option (α × List Char)

namespace Reader

instance : Monad Reader where
  pure a := fun input => some (a, input)
  bind reader next := fun input => (reader input).bind fun (a, rest) => next a rest

def refuse : Reader α := fun _ => none

def exactly (cs : List Char) : Reader Unit := fun input => (Text.stripStart? cs input).map ((), ·)

def run (p : Char → Bool) : Reader (List Char) := fun input =>
  some (input.takeWhile p, input.dropWhile p)

def run1 (p : Char → Bool) : Reader (List Char) := fun input =>
  if (input.takeWhile p).isEmpty then none else some (input.takeWhile p, input.dropWhile p)

def orElse (first second : Reader α) : Reader α := fun input => (first input).orElse fun _ => second input

def opt (reader : Reader α) : Reader (Option α) := fun input =>
  match reader input with
  | some (a, rest) => some (some a, rest)
  | none => some (none, input)

end Reader

open Reader

/-! ## Blanks and line ends -/

def isSpace (c : Char) : Bool := c == ' ' || c == '\t'

def skipSpaces : Reader Unit := fun input => some ((), input.dropWhile isSpace)

def newline : Reader Unit := fun input =>
  match input with
  | '\n' :: rest => some ((), rest)
  | '\r' :: '\n' :: rest => some ((), rest)
  | _ => none

def isCommentChar (c : Char) : Bool := c == '\t' || (' ' ≤ c && c != '\x7f')

def skipComment : Reader Unit := do
  exactly ['#']
  let _ ← run isCommentChar
  return ()

/-! ## Strings -/

def isBasicChar (c : Char) : Bool := isCommentChar c && c != '"' && c != '\\'

def isLiteralChar (c : Char) : Bool := isCommentChar c && c != '\''

def codePoint (count : Nat) : Reader Char := fun input =>
  if input.length < count then none
  else
    match (input.take count).mapM Text.hexValue? with
    | none => none
    | some digits =>
      let n := digits.foldl (fun n d => 16 * n + d) 0
      if h : n.isValidChar then some (Char.ofNatAux n h, input.drop count) else none

def escape : Reader Char := fun input =>
  match input with
  | 'b' :: rest => some ('\x08', rest)
  | 't' :: rest => some ('\t', rest)
  | 'n' :: rest => some ('\n', rest)
  | 'f' :: rest => some ('\x0c', rest)
  | 'r' :: rest => some ('\r', rest)
  | '"' :: rest => some ('"', rest)
  | '\\' :: rest => some ('\\', rest)
  | 'u' :: rest => codePoint 4 rest
  | 'U' :: rest => codePoint 8 rest
  | _ => none

def iterateWithin (step : σ → Reader (σ ⊕ α)) : Nat → σ → Reader α
  | 0, _ => refuse
  | bound + 1, state => fun input =>
    match step state input with
    | none => none
    | some (.inl state', rest) => iterateWithin step bound state' rest
    | some (.inr a, rest) => some (a, rest)

def iterate (step : σ → Reader (σ ⊕ α)) (start : σ) : Reader α := fun input =>
  iterateWithin step (input.length + 1) start input

def basicStep (read : List Char) : Reader (List Char ⊕ String) := fun input =>
  match input with
  | '"' :: rest => some (.inr (String.ofList read.reverse), rest)
  | '\\' :: rest => (escape rest).map fun (c, rest) => (.inl (c :: read), rest)
  | c :: rest => if isBasicChar c then some (.inl (c :: read), rest) else none
  | [] => none

def literalStep (read : List Char) : Reader (List Char ⊕ String) := fun input =>
  match input with
  | '\'' :: rest => some (.inr (String.ofList read.reverse), rest)
  | c :: rest => if isLiteralChar c then some (.inl (c :: read), rest) else none
  | [] => none

/-- A run of three quotes or more: up to two of them belong to the string, three end it. -/
def closing (quote : Char) (read : List Char) (input : List Char) :
    (List Char ⊕ String) × List Char :=
  let count := (input.takeWhile (· == quote)).length
  if count < 3 then (.inl (List.replicate count quote ++ read), input.drop count)
  else
    let own := min (count - 3) 2
    (.inr (String.ofList (List.replicate own quote ++ read).reverse), input.drop (own + 3))

/-- Drops spaces and line ends; a carriage return counts only before a line feed. -/
def skipBlankLines : Nat → List Char → List Char
  | 0, input => input
  | bound + 1, input =>
    match input with
    | [] => []
    | c :: rest =>
      if isSpace c then skipBlankLines bound rest
      else
        match newline input with
        | some (_, rest) => skipBlankLines bound rest
        | none => input

def lineJoin : Reader Unit := do
  skipSpaces
  newline
  fun input => some ((), skipBlankLines input.length input)

def longBasicStep (read : List Char) : Reader (List Char ⊕ String) := fun input =>
  match input with
  | [] => none
  | '"' :: _ => some (closing '"' read input)
  | '\\' :: rest =>
    match lineJoin rest with
    | some (_, rest) => some (.inl read, rest)
    | none => (escape rest).map fun (c, rest) => (.inl (c :: read), rest)
  | c :: rest =>
    if isBasicChar c then some (.inl (c :: read), rest)
    else (newline input).map fun (_, rest) => (.inl ('\n' :: read), rest)

def longLiteralStep (read : List Char) : Reader (List Char ⊕ String) := fun input =>
  match input with
  | [] => none
  | '\'' :: _ => some (closing '\'' read input)
  | c :: rest =>
    if isLiteralChar c then some (.inl (c :: read), rest)
    else (newline input).map fun (_, rest) => (.inl ('\n' :: read), rest)

def shortString : Reader String := fun input =>
  match input with
  | '"' :: rest => iterate basicStep [] rest
  | '\'' :: rest => iterate literalStep [] rest
  | _ => none

def string : Reader String := fun input =>
  match input with
  | '"' :: '"' :: '"' :: rest => iterate longBasicStep [] (withoutNewline rest)
  | '\'' :: '\'' :: '\'' :: rest => iterate longLiteralStep [] (withoutNewline rest)
  | _ => shortString input
where
  withoutNewline (input : List Char) : List Char :=
    match newline input with
    | some (_, rest) => rest
    | none => input

/-! ## Numbers -/

def digitsWith (isDigit : Char → Bool) : Reader (List Char) := fun input =>
  match input with
  | c :: rest => if isDigit c then (more isDigit rest.length rest).map fun (cs, rest) => (c :: cs, rest) else none
  | [] => none
where
  more (isDigit : Char → Bool) : Nat → Reader (List Char)
    | 0 => fun input => some ([], input)
    | bound + 1 => fun input =>
      match input with
      | '_' :: c :: rest =>
        if isDigit c then (more isDigit bound rest).map fun (cs, rest) => (c :: cs, rest) else none
      | ['_'] => none
      | c :: rest =>
        if isDigit c then (more isDigit bound rest).map fun (cs, rest) => (c :: cs, rest)
        else some ([], input)
      | [] => some ([], input)

def sign : Reader Bool := fun input =>
  match input with
  | '-' :: rest => some (true, rest)
  | '+' :: rest => some (false, rest)
  | _ => some (false, input)

def decimalDigits : Reader (List Char) := fun input =>
  match input with
  | '0' :: rest => some (['0'], rest)
  | _ => digitsWith Char.isDigit input

def valueIn (base : Nat) (digits : List Char) : Nat :=
  digits.foldl (fun n c => base * n + (Text.hexValue? c).getD 0) 0

def isDigitIn (base : Nat) (c : Char) : Bool :=
  match Text.hexValue? c with
  | some d => d < base
  | none => false

def integerLimit : Nat := 0x8000000000000000

def basedInteger (base : Nat) : Reader Value := do
  let digits ← digitsWith (isDigitIn base)
  if valueIn base digits < integerLimit then return .integer (valueIn base digits) else refuse

def fraction : Reader (List Char) := fun input =>
  match input with
  | '.' :: rest => digitsWith Char.isDigit rest
  | _ => some ([], input)

def exponent : Reader (Option Int) := fun input =>
  match input with
  | 'e' :: rest | 'E' :: rest =>
    ((do
      let down ← sign
      let digits ← digitsWith Char.isDigit
      let n : Int := Text.digitsValue digits
      return some (if down then -n else n) : Reader (Option Int)) rest)
  | _ => some (none, input)

/-- Exponents beyond this one give zero or infinity, whatever the digits. -/
def maxPlace : Nat := 100000

def realOf (negative : Bool) (digits : List Char) (place : Int) : Float :=
  let n := Text.digitsValue digits
  let x :=
    if n = 0 then 0.0
    else if (maxPlace : Int) + digits.length < place.natAbs then
      if 0 < place then Float.ofScientific 1 false maxPlace else 0.0
    else Float.ofScientific n (place < 0) place.natAbs
  if negative then -x else x

def decimal : Reader Value := do
  let negative ← sign
  let whole ← decimalDigits
  let fraction ← fraction
  let exponent ← exponent
  if fraction.isEmpty ∧ exponent.isNone then
    let n : Int := Text.digitsValue whole
    let n := if negative then -n else n
    if -(integerLimit : Int) ≤ n ∧ n < integerLimit then return .integer n else refuse
  else
    let x := realOf negative (whole ++ fraction) (exponent.getD 0 - fraction.length)
    if x.isInf ∧ 0 < x then refuse else return .real x

def specialReal : Reader Value := do
  let negative ← sign
  let isInf ← orElse (exactly ['i', 'n', 'f'] >>= fun _ => pure true)
    (exactly ['n', 'a', 'n'] >>= fun _ => pure false)
  let x : Float := if isInf then 1.0 / 0.0 else 0.0 / 0.0
  return .real (if negative then -x else x)

/-! ## Dates and times -/

def fixedDigits (count : Nat) : Reader Nat := fun input =>
  let digits := input.take count
  if digits.length = count ∧ digits.all Char.isDigit then
    some (Text.digitsValue digits, input.drop count)
  else none

def twoDigits (low high : Nat) : Reader Nat := do
  let n ← fixedDigits 2
  if low ≤ n ∧ n ≤ high then return n else refuse

def isLeapYear (year : Nat) : Bool := year % 4 == 0 && (year % 100 != 0 || year % 400 == 0)

def daysIn (year month : Nat) : Nat :=
  if month = 2 then (if isLeapYear year then 29 else 28)
  else if month = 4 ∨ month = 6 ∨ month = 9 ∨ month = 11 then 30 else 31

def date : Reader Unit := do
  let year ← fixedDigits 4
  exactly ['-']
  let month ← twoDigits 1 12
  exactly ['-']
  let day ← twoDigits 1 31
  if day ≤ daysIn year month then return () else refuse

def time : Reader Unit := do
  let _ ← twoDigits 0 23
  exactly [':']
  let _ ← twoDigits 0 59
  exactly [':']
  let _ ← twoDigits 0 60
  fun input =>
    match input with
    | '.' :: rest => (run1 Char.isDigit rest).map fun (_, rest) => ((), rest)
    | _ => some ((), input)

def offset : Reader Unit := fun input =>
  match input with
  | 'Z' :: rest | 'z' :: rest => some ((), rest)
  | '+' :: rest | '-' :: rest =>
    (do
      let _ ← twoDigits 0 23
      exactly [':']
      let _ ← twoDigits 0 59
      return () : Reader Unit) rest
  | _ => some ((), input)

def atTime (input : List Char) : Bool :=
  match twoDigits 0 23 input with
  | some (_, ':' :: _) => true
  | _ => false

def atDate (input : List Char) : Bool :=
  match fixedDigits 4 input with
  | some (_, '-' :: _) => true
  | _ => false

def moment : Reader Value := fun input =>
  if atDate input then
    match date input with
    | none => none
    | some (_, rest) =>
      match rest with
      | d :: timed =>
        if (d == 'T' || d == 't' || d == ' ') && atTime timed then
          (do
            time
            offset
            return .moment : Reader Value) timed
        else some (.moment, rest)
      | [] => some (.moment, rest)
  else
    (do
      time
      return .moment : Reader Value) input

def numberOrMoment : Reader Value := fun input =>
  if atDate input || atTime input then moment input
  else
    match input with
    | '0' :: 'x' :: rest => basedInteger 16 rest
    | '0' :: 'o' :: rest => basedInteger 8 rest
    | '0' :: 'b' :: rest => basedInteger 2 rest
    | _ => orElse decimal specialReal input

end Emplace.Toml
