import Emplace.Json.Value
import Emplace.Number.Shortest
import Emplace.Text.Hex

namespace Emplace.Json

def controlEscape (c : Char) : List Char :=
  ['\\', 'u', '0', '0', Text.hexDigit (c.toNat / 16), Text.hexDigit (c.toNat % 16)]

def escaped (c : Char) : List Char :=
  if c = '"' then ['\\', '"']
  else if c = '\\' then ['\\', '\\']
  else if c = '\x08' then ['\\', 'b']
  else if c = '\x0c' then ['\\', 'f']
  else if c = '\n' then ['\\', 'n']
  else if c = '\r' then ['\\', 'r']
  else if c = '\t' then ['\\', 't']
  else if c < ' ' then controlEscape c
  else [c]

def stringText (s : String) : List Char := ['"'] ++ s.toList.flatMap escaped ++ ['"']

/-- A decimal as JSON writes it: positional between 10^-5 and 10^16, else with an exponent. -/
def decimalText (d : Number.Decimal) : List Char :=
  let digits := Nat.toDigits 10 d.digits
  let point : Int := digits.length + d.place
  if 0 ≤ d.place ∧ point ≤ 16 then digits ++ List.replicate d.place.toNat '0' ++ ['.', '0']
  else if 0 < point ∧ point ≤ 16 then
    digits.take point.toNat ++ ['.'] ++ digits.drop point.toNat
  else if -5 < point ∧ point ≤ 0 then
    ['0', '.'] ++ List.replicate (-point).toNat '0' ++ digits
  else
    let exponent := ['e'] ++ (toString (point - 1)).toList
    match digits with
    | [d] => [d] ++ exponent
    | d :: rest => [d, '.'] ++ rest ++ exponent
    | [] => []

def realText (x : Float) : List Char :=
  let negative := 0x8000000000000000 ≤ x.toBits
  let size := x.abs
  (if negative then ['-'] else []) ++
    (if size == 0 then ['0', '.', '0'] else decimalText (Number.shortest size))

mutual

def render : Json → List Char
  | .null => ['n', 'u', 'l', 'l']
  | .flag true => ['t', 'r', 'u', 'e']
  | .flag false => ['f', 'a', 'l', 's', 'e']
  | .whole n => (toString n).toList
  | .real x => realText x
  | .text s => stringText s
  | .list [] => ['[', ']']
  | .list (item :: items) => ['['] ++ render item ++ renderItems items ++ [']']
  | .object [] => ['\x7b', '\x7d']
  | .object ((name, value) :: members) =>
    ['\x7b'] ++ stringText name ++ [':'] ++ render value ++ renderMembers members ++ ['\x7d']

def renderItems : List Json → List Char
  | [] => []
  | item :: items => [','] ++ render item ++ renderItems items

def renderMembers : List (String × Json) → List Char
  | [] => []
  | (name, value) :: members =>
    [','] ++ stringText name ++ [':'] ++ render value ++ renderMembers members

end

def bytes (value : Json) : Bytes := Text.encode (render value)

end Emplace.Json
