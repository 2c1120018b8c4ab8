import Emplace.Program.Raw
import Emplace.Text.Hex

namespace Emplace.Program

structure Escapes where
  leadingZero : Bool
  hexadecimal : Bool
  quote : Bool
  ending : Bool
  strict : Bool
  deriving DecidableEq, Repr, Inhabited

inductive EscapeStop
  | ending
  | missingHex
  | noCharacter (text : String)
  deriving DecidableEq, Repr, Inhabited

def isOctal (c : Char) : Bool := '0' ≤ c && c ≤ '7'

def valueIn (base : Nat) (digits : List Char) : Nat :=
  digits.foldl (fun n c => base * n + (Text.hexValue? c).getD 0) 0

def Escapes.letterByte? (e : Escapes) : Char → Option UInt8
  | 'a' => some 7
  | 'b' => some 8
  | 'e' => some 27
  | 'f' => some 12
  | 'n' => some 10
  | 'r' => some 13
  | 't' => some 9
  | 'v' => some 11
  | '\\' => some 92
  | '"' => if e.quote then some 34 else none
  | _ => none

def numberWidth? : Char → Option Nat
  | 'u' => some 4
  | 'U' => some 8
  | _ => none

def isHex (c : Char) : Bool := (Text.hexValue? c).isSome

def numberedCharacter (letter : Char) (digits : List Char) (width : Nat) : Except EscapeStop Bytes :=
  let n := valueIn 16 digits
  if digits.length < width || !digits.all isHex then .error .missingHex
  else if n < 0xD800 || 0xDFFF < n && n < 0x110000 then .ok (Text.encodeChar (Char.ofNat n))
  else .error (.noCharacter (String.ofList ('\\' :: letter :: digits)))

def Escapes.read (e : Escapes) (cs : List Char) : Except EscapeStop (Bytes × List Char) :=
  match cs with
  | [] => .ok ([92], [])
  | c :: rest =>
    match e.letterByte? c, if e.strict then numberWidth? c else none with
    | some b, _ => .ok ([b], rest)
    | none, some width =>
      (numberedCharacter c (rest.take width) width).map fun bytes => (bytes, rest.drop width)
    | none, none =>
      let zero := e.leadingZero && c == '0'
      let body := if zero then rest else cs
      let octal := (body.take 3).takeWhile isOctal
      let hex := (rest.take 2).takeWhile isHex
      if e.ending && c == 'c' then .error .ending
      else if !octal.isEmpty || zero then .ok ([UInt8.ofNat (valueIn 8 octal)], body.drop octal.length)
      else if e.hexadecimal && c == 'x' && !hex.isEmpty then
        .ok ([UInt8.ofNat (valueIn 16 hex)], rest.drop hex.length)
      else if e.strict && c == 'x' then .error .missingHex
      else .ok ([92], cs)

def Escapes.bytesFrom (e : Escapes) : (bound : Nat) → List Char → Bytes × Option EscapeStop
  | 0, _ => ([], none)
  | _, [] => ([], none)
  | bound + 1, c :: rest =>
    match if c == '\\' then e.read rest else .ok ([UInt8.ofNat c.toNat], rest) with
    | .error stop => ([], some stop)
    | .ok (own, rest) =>
      let (bytes, stop) := e.bytesFrom bound rest
      (own ++ bytes, stop)

def Escapes.bytes (e : Escapes) (s : String) : Bytes × Option EscapeStop := e.bytesFrom (s.length + 1) s.toList

end Emplace.Program
