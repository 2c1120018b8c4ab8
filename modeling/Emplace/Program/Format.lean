import Emplace.Number.Rounded
import Emplace.Program.Escape
import Emplace.Program.Utility.Argument
import Emplace.Text.Blank
import Emplace.Text.Numeral

namespace Emplace.Program

inductive Dialect
  | shell
  | utility
  deriving DecidableEq, Repr, Inhabited

def Dialect.formatEscapes : Dialect → Escapes
  | .shell => ⟨false, false, false, false, false⟩
  | .utility => ⟨false, true, true, true, true⟩

def Dialect.argumentEscapes : Dialect → Escapes
  | .shell => ⟨true, false, false, true, false⟩
  | .utility => ⟨true, true, true, true, true⟩

def Dialect.realBits : Dialect → Nat
  | .shell => 53
  | .utility => 64

inductive FormatFault
  | conversion (text : String)
  | missingKind
  | missingHex
  | noCharacter (text : String)
  | notNumeric (arg : String)
  | leftOver (arg : String)
  | outOfRange (arg : String)
  | behindCharacter (rest : String)
  | unused (arg : String)
  | width (arg : String)
  | precision (arg : String)
  | tooLong
  deriving DecidableEq, Repr, Inhabited

def FormatFault.text : Dialect → FormatFault → String
  | .shell, .conversion text => s!"{text}: invalid directive"
  | .utility, .conversion text => s!"{text}: invalid conversion specification"
  | _, .missingKind => "missing format character"
  | _, .missingHex => "missing hexadecimal number in escape"
  | _, .noCharacter text => s!"invalid universal character name {text}"
  | .shell, .notNumeric arg => s!"{arg}: expected numeric value"
  | .utility, .notNumeric arg => inQuotes arg ++ ": expected a numeric value"
  | .shell, .leftOver arg => s!"{arg}: not completely converted"
  | .utility, .leftOver arg => inQuotes arg ++ ": value not completely converted"
  | .shell, .outOfRange arg => s!"{arg}: Numerical result out of range"
  | .utility, .outOfRange arg => inQuotes arg ++ ": Numerical result out of range"
  | _, .behindCharacter rest =>
    s!"warning: {rest}: character(s) following character constant have been ignored"
  | _, .unused arg => "warning: ignoring excess arguments, starting with " ++ inQuotes arg
  | _, .width arg => "invalid field width: " ++ inQuotes arg
  | _, .precision arg => "invalid precision: " ++ inQuotes arg
  | .shell, .tooLong => "xvsnprintf failed"
  | .utility, .tooLong => "write error"

def FormatFault.status : Dialect → FormatFault → Nat
  | .shell, .conversion _ | .shell, .missingKind | .shell, .tooLong => 2
  | _, .behindCharacter _ | _, .unused _ => 0
  | _, _ => 1

def FormatFault.ofStop? : EscapeStop → Option FormatFault
  | .ending => none
  | .missingHex => some .missingHex
  | .noCharacter text => some (.noCharacter text)

def isSpaceChar (c : Char) : Bool := c == ' ' || ('\t' ≤ c && c ≤ '\r')

def signOf (cs : List Char) : Bool × List Char :=
  match cs.dropWhile isSpaceChar with
  | '-' :: rest => (true, rest)
  | '+' :: rest => (false, rest)
  | rest => (false, rest)

def wholeNumber (cs : List Char) : Int × List Char :=
  let (negative, body) := signOf cs
  let read (base : Nat) (isDigit : Char → Bool) (body : List Char) : Int × List Char :=
    let n : Int := valueIn base (body.takeWhile isDigit)
    (if negative then -n else n, body.dropWhile isDigit)
  match body with
  | '0' :: x :: c :: rest =>
    if (x == 'x' || x == 'X') && isHex c then read 16 isHex (c :: rest) else read 8 isOctal body
  | '0' :: _ => read 8 isOctal body
  | c :: _ => if c.isDigit then read 10 Char.isDigit body else (0, cs)
  | [] => (0, cs)

def numberFaults (arg : String) (rest : List Char) (fits : Bool) : List FormatFault :=
  if rest.isEmpty then if fits then [] else [.outOfRange arg]
  else if rest = arg.toList then [.notNumeric arg]
  else [.leftOver arg]

/-- The character that an argument names behind a quote, as its number, with the faults of the argument. A utility
reads a whole character, a shell its first byte. -/
def characterNumber? (d : Dialect) (arg : String) : Option (Nat × List FormatFault) :=
  match arg.toList with
  | q :: rest =>
    if q == '\x27' || q == '"' then
      match d, Raw.bytesOf rest with
      | .utility, [] => none
      | .utility, b :: more =>
        let (n, width) := match more, Text.front (b :: more) with
          | _ :: _, (some c, width) => (c.toNat, width)
          | _, _ => (b.toNat, 1)
        let behind := rest.drop width
        some (n, if behind.isEmpty then [] else [.behindCharacter (String.ofList behind)])
      | _, bytes => some ((bytes.headD 0).toNat, [])
    else none
  | [] => none

def boundedNumber (d : Dialect) (low high : Int) (arg : String) : Int × List FormatFault :=
  match characterNumber? d arg with
  | some (n, faults) => (n, faults)
  | none =>
    let (n, rest) := wholeNumber arg.toList
    (min high (max low n), numberFaults arg rest (low ≤ n && n ≤ high))

def unsignedEnd : Int := UInt64.size

def signedNumber (d : Dialect) (arg : String) : Int × List FormatFault :=
  boundedNumber d (-(unsignedEnd / 2)) (unsignedEnd / 2 - 1) arg

def unsignedNumber (d : Dialect) (arg : String) : Nat × List FormatFault :=
  let (n, faults) := boundedNumber d (1 - unsignedEnd) (unsignedEnd - 1) arg
  let outside := faults.any fun f => match f with
    | .outOfRange _ => true
    | _ => false
  ((if outside then unsignedEnd - 1 else n % unsignedEnd).toNat, faults)

inductive RealValue
  | fraction (negative : Bool) (size : Number.Fraction)
  | word (negative : Bool) (text : String)
  deriving DecidableEq, Repr, Inhabited

def decimalNumber? (cs : List Char) : Option (Number.Fraction × List Char) :=
  let whole := cs.takeWhile Char.isDigit
  let (places, rest) := match cs.drop whole.length with
    | '.' :: rest => (rest.takeWhile Char.isDigit, rest.dropWhile Char.isDigit)
    | rest => ([], rest)
  if (whole ++ places).isEmpty then none
  else
    let (exponent, rest) : Int × List Char := match rest with
      | e :: behind =>
        let (negative, digits) := signOf behind
        if (e == 'e' || e == 'E') && (digits.head?.map Char.isDigit).getD false then
          let n : Int := Text.digitsValue (digits.takeWhile Char.isDigit)
          (if negative then -n else n, digits.dropWhile Char.isDigit)
        else (0, rest)
      | [] => (0, [])
    let limited := max (-5000) (min 5000 (exponent - places.length))
    some ((Number.Fraction.mk (Text.digitsValue (whole ++ places)) 1).scaled 10 limited, rest)

def realNumber (d : Dialect) (arg : String) : RealValue × List FormatFault :=
  match characterNumber? d arg with
  | some (n, faults) => (.fraction false ⟨n, 1⟩, faults)
  | none =>
    let (negative, body) := signOf arg.toList
    let words := ["infinity", "inf", "nan"]
    let lower := body.map Char.toLower
    match decimalNumber? body, words.findSome? fun w => (Text.stripStart? w.toList lower).map (w, ·) with
    | some (x, rest), _ => (.fraction negative (x.toBits d.realBits), numberFaults arg rest true)
    | none, some (w, rest) => (.word negative (String.ofList (w.toList.take 3)), numberFaults arg rest true)
    | none, none => (.fraction false ⟨0, 1⟩, numberFaults arg arg.toList true)

inductive Extent
  | absent
  | given (n : Nat)
  | argument
  deriving DecidableEq, Repr, Inhabited

structure Conversion where
  flags : List Char
  width : Extent
  precision : Extent
  kind : Char
  deriving DecidableEq, Repr, Inhabited

inductive Part
  | bytes (b : Bytes)
  | conversion (c : Conversion)
  | fault (f : FormatFault)
  | ending
  deriving DecidableEq, Repr, Inhabited

def extent (cs : List Char) : Extent × List Char :=
  match cs with
  | '*' :: rest => (.argument, rest)
  | c :: _ =>
    if c.isDigit then (.given (Text.digitsValue (cs.takeWhile Char.isDigit)), cs.dropWhile Char.isDigit)
    else (.absent, cs)
  | [] => (.absent, cs)

def wholeKinds : List Char := ['d', 'i', 'o', 'u', 'x', 'X']

def realKinds : List Char := ['e', 'E', 'f', 'F', 'g', 'G']

def Conversion.isKnown (c : Conversion) : Dialect → Bool
  | .shell => (['b', 'c', 's'] ++ wholeKinds ++ realKinds).contains c.kind
  | .utility =>
    (['c', 's'] ++ wholeKinds ++ realKinds).contains c.kind &&
      !(c.flags.contains '#' && ['c', 'd', 'i', 's', 'u'].contains c.kind) &&
      !(c.flags.contains '0' && ['c', 's'].contains c.kind) && !(c.precision ≠ .absent && c.kind == 'c') ||
      c = ⟨[], .absent, .absent, 'b'⟩ || c = ⟨[], .absent, .absent, 'q'⟩

def conversion (d : Dialect) (cs : List Char) : Part × List Char :=
  let flags := cs.takeWhile ['-', '0', '+', ' ', '#'].contains
  let (width, rest) := extent (cs.drop flags.length)
  let (precision, rest) : Extent × List Char := match rest with
    | '.' :: rest =>
      let (places, rest) := extent rest
      (if places = .absent then .given 0 else places, rest)
    | _ => (.absent, rest)
  let rest := if d = .utility then rest.dropWhile ['l', 'L', 'h', 'j', 't', 'z'].contains else rest
  let shown (rest : List Char) : String := String.ofList ('%' :: cs.take (cs.length - rest.length))
  match rest with
  | kind :: rest =>
    let c : Conversion := ⟨flags, width, precision, kind⟩
    (if c.isKnown d then .conversion c else .fault (.conversion (shown rest)), rest)
  | [] => (.fault (if d = .shell then .missingKind else .conversion (shown [])), [])

def parts (d : Dialect) : (bound : Nat) → List Char → List Part
  | 0, _ => []
  | _, [] => []
  | bound + 1, '%' :: '%' :: rest => .bytes [37] :: parts d bound rest
  | bound + 1, '%' :: rest =>
    let (part, rest) := conversion d rest
    part :: parts d bound rest
  | bound + 1, '\\' :: rest =>
    match d.formatEscapes.read rest with
    | .ok (bytes, rest) => .bytes bytes :: parts d bound rest
    | .error stop => [((FormatFault.ofStop? stop).map Part.fault).getD .ending]
  | bound + 1, c :: rest => .bytes [UInt8.ofNat c.toNat] :: parts d bound rest

def filled (flags : List Char) (zeros : Bool) (width : Nat) (sign digits : List Char) : Bytes :=
  let gap := width - sign.length - digits.length
  Raw.bytesOf <|
    if flags.contains '-' then sign ++ digits ++ List.replicate gap ' '
    else if zeros && flags.contains '0' then sign ++ List.replicate gap '0' ++ digits
    else List.replicate gap ' ' ++ sign ++ digits

def signText (flags : List Char) (negative : Bool) : List Char :=
  if negative then ['-'] else if flags.contains '+' then ['+'] else if flags.contains ' ' then [' '] else []

def wholeText (flags : List Char) (kind : Char) (places : Option Nat) (size : Nat) : List Char × List Char :=
  let base := if kind == 'x' || kind == 'X' then 16 else if kind == 'o' then 8 else 10
  let digits := Nat.toDigits base size
  let digits := if kind == 'X' then digits.map Char.toUpper else digits
  let digits := if places = some 0 && size = 0 then [] else digits
  let digits := List.replicate (places.getD 1 - digits.length) '0' ++ digits
  if flags.contains '#' && base = 16 && size ≠ 0 then (['0', kind], digits)
  else if flags.contains '#' && base = 8 && digits.head? != some '0' then ([], '0' :: digits)
  else ([], digits)

def realText (flags : List Char) (kind : Char) (places : Option Nat) (x : Number.Fraction) : List Char :=
  let point := flags.contains '#'
  let places := places.getD 6
  match kind with
  | 'f' | 'F' => x.fixed point places
  | 'e' | 'E' => x.scientific point kind places
  | _ => x.general point (if kind == 'g' then 'e' else 'E') (max 1 places)

def Conversion.apply (c : Conversion) (d : Dialect) (flags : List Char) (width : Nat) (places : Option Nat)
    (arg : Option String) : Bytes × Bool × List FormatFault :=
  let text := arg.getD ""
  let aligned (bytes : Bytes) : Bytes :=
    let gap := List.replicate (width - bytes.length) 32
    if flags.contains '-' then bytes ++ gap else gap ++ bytes
  let faultsOf (faults : List FormatFault) : List FormatFault := if arg.isSome then faults else []
  if c.kind == 's' then (aligned ((Raw.bytes text).take (places.getD text.length)), false, [])
  else if c.kind == 'q' then (Raw.bytes (shownWord text), false, [])
  else if c.kind == 'b' then
    let (bytes, stop) := d.argumentEscapes.bytes text
    (aligned bytes, stop.isSome, (stop.bind FormatFault.ofStop?).toList)
  else if c.kind == 'c' then (aligned [(Raw.bytes text).headD 0], false, [])
  else if c.kind == 'd' || c.kind == 'i' then
    let (n, faults) := signedNumber d text
    let (_, digits) := wholeText flags 'd' places n.natAbs
    (filled flags places.isNone width (signText flags (n < 0)) digits, false, faultsOf faults)
  else if wholeKinds.contains c.kind then
    let (n, faults) := unsignedNumber d text
    let (sign, digits) := wholeText flags c.kind places n
    (filled flags places.isNone width sign digits, false, faultsOf faults)
  else
    let (x, faults) := realNumber d text
    let (sign, digits, zeros) := match x with
      | .fraction negative size => (signText flags negative, realText flags c.kind places size, true)
      | .word negative word =>
        (signText flags negative, if c.kind.isUpper then word.toList.map Char.toUpper else word.toList, false)
    (filled flags zeros width sign digits, false, faultsOf faults)

structure Printing where
  printed : Bytes := []
  ended : Bool := false
  faults : List FormatFault := []
  args : List String
  deriving DecidableEq, Repr, Inhabited

namespace Printing

def longest : Int := 0x7FFFFFFF

def extent (p : Printing) (d : Dialect) (fault : String → FormatFault) : Extent → Printing × Option Int
  | .absent => (p, none)
  | .given n => (if longest < n then { p with ended := true, faults := p.faults ++ [.tooLong] } else p, some n)
  | .argument =>
    match p.args with
    | [] => (p, some 0)
    | arg :: args =>
      let (n, faults) := signedNumber d arg
      let p := { p with args := args, faults := p.faults ++ faults }
      (if longest < n.natAbs then { p with ended := true, faults := p.faults ++ [fault arg] } else p, some n)

def part (d : Dialect) (p : Printing) : Part → Printing
  | .bytes b => { p with printed := p.printed ++ b }
  | .fault f => { p with ended := true, faults := p.faults ++ [f] }
  | .ending => { p with ended := true }
  | .conversion c =>
    let (p, width) := p.extent d .width c.width
    let (p, places) := p.extent d .precision c.precision
    if p.ended then p
    else
      let flags := if width.getD 0 < 0 then '-' :: c.flags else c.flags
      let places := (places.filter fun n => decide (0 ≤ n)).map Int.toNat
      let (bytes, ended, faults) := c.apply d flags (width.getD 0).natAbs places p.args.head?
      { p with printed := p.printed ++ bytes, ended := ended, faults := p.faults ++ faults, args := p.args.drop 1 }

def once (d : Dialect) (format : List Part) (p : Printing) : Printing :=
  format.foldl (fun p next => if p.ended then p else p.part d next) p

def all (d : Dialect) (format : List Part) : (bound : Nat) → Printing → Printing
  | 0, p => p
  | bound + 1, p =>
    let next := p.once d format
    if next.ended || next.args.isEmpty || next.args.length = p.args.length then next else all d format bound next

def status (d : Dialect) (p : Printing) : Nat := (p.faults.map (FormatFault.status d)).foldl max 0

end Printing

def formatted (d : Dialect) (format : String) (args : List String) : Printing :=
  let p := Printing.all d (parts d (format.length + 1) format.toList) (args.length + 1) { args := args }
  match d, p.ended, p.args with
  | .utility, false, arg :: _ => { p with faults := p.faults ++ [.unused arg] }
  | _, _, _ => p

end Emplace.Program
