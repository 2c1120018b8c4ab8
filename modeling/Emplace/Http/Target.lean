import Emplace.Text.Blank
import Emplace.Text.Hex
import Emplace.Text.Utf8

namespace Emplace.Http

def isSchemeChar (c : Char) : Bool := c.isAlphanum || c == '+' || c == '-' || c == '.'

def schemeLimit : Nat := 64

def behindScheme? (target : List Char) : Option (List Char) :=
  let (scheme, rest) := target.span isSchemeChar
  if scheme.length ≤ schemeLimit then Text.stripStart? [':', '/', '/'] rest else none

def endsHost (c : Char) : Bool := c == '/' || c == '?' || c == '#'

/-- The path of a request target, up to its query or fragment. A host alone stands for its first path; a target
without a path has none. -/
def pathOf (target : String) : List Char :=
  let upToQuery (cs : List Char) := cs.takeWhile fun c => c != '?' && c != '#'
  match target.toList with
  | '/' :: rest => '/' :: upToQuery rest
  | cs =>
    match behindScheme? cs with
    | some rest =>
      match upToQuery (rest.dropWhile fun c => !endsHost c) with
      | [] => ['/']
      | path => path
    | none => []

def escapedByte? (hi lo : UInt8) : Option UInt8 := do
  let h ← Text.hexValue? (Char.ofNat hi.toNat)
  let l ← Text.hexValue? (Char.ofNat lo.toNat)
  return UInt8.ofNat (16 * h + l)

def percentDecoded : Bytes → Bytes
  | [] => []
  | 0x25 :: hi :: lo :: rest =>
    match escapedByte? hi lo with
    | some b => b :: percentDecoded rest
    | none => 0x25 :: percentDecoded (hi :: lo :: rest)
  | b :: rest => b :: percentDecoded rest

def parameter? (segment : List Char) : Option String :=
  Text.stringOf? (percentDecoded (Text.encode segment))

end Emplace.Http
