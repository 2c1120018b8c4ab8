import Emplace.Text.Hex
import Emplace.Text.Numeral

namespace Emplace.Http

inductive Ip
  | v4 (a b c d : UInt8)
  | v6 (groups : Vector UInt16 8)
  deriving DecidableEq, Repr

structure SocketAddress where
  ip : Ip
  port : UInt16
  scope : UInt32 := 0
  deriving DecidableEq, Repr

namespace Ip

def canonical : Ip → Ip
  | .v4 a b c d => .v4 a b c d
  | .v6 groups =>
    match groups.toList with
    | [0, 0, 0, 0, 0, 0xFFFF, high, low] =>
      .v4 (high >>> 8).toUInt8 high.toUInt8 (low >>> 8).toUInt8 low.toUInt8
    | _ => .v6 groups

def isLoopback : Ip → Bool
  | .v4 a _ _ _ => a == 127
  | .v6 groups => groups.toList == [0, 0, 0, 0, 0, 0, 0, 1]

def isLocal (ip : Ip) : Bool := ip.canonical.isLoopback

def zeroRun (groups : List UInt16) : Nat × Nat :=
  let step (s : Nat × (Nat × Nat) × (Nat × Nat)) (g : UInt16) :=
    let (index, best, current) := s
    let current := if g = 0 then (if current.2 = 0 then (index, 1) else (current.1, current.2 + 1)) else (0, 0)
    (index + 1, if best.2 < current.2 then current else best, current)
  (groups.foldl step (0, (0, 0), (0, 0))).2.1

def groupsText (groups : List UInt16) : String :=
  ":".intercalate (groups.map fun g => String.ofList (Nat.toDigits 16 g.toNat))

def text (ip : Ip) : String :=
  match ip with
  | .v4 a b c d => s!"{a}.{b}.{c}.{d}"
  | .v6 groups =>
    match canonical (.v6 groups) with
    | .v4 a b c d => s!"::ffff:{a}.{b}.{c}.{d}"
    | .v6 _ =>
      let (start, length) := zeroRun groups.toList
      if 1 < length then
        groupsText (groups.toList.take start) ++ "::" ++
          groupsText (groups.toList.drop (start + length))
      else groupsText groups.toList

def splitOn (separator : Char) (cs : List Char) : List (List Char) :=
  cs.foldr (fun c parts =>
    if c = separator then [] :: parts
    else
      match parts with
      | part :: rest => (c :: part) :: rest
      | [] => [[c]]) [[]]

def octet? (cs : List Char) : Option UInt8 :=
  match Text.digits? cs with
  | some n =>
    if n ≤ 255 ∧ cs.length ≤ 3 ∧ (cs.length = 1 ∨ cs.head? ≠ some '0') then some (UInt8.ofNat n)
    else none
  | none => none

def v4? (cs : List Char) : Option (UInt8 × UInt8 × UInt8 × UInt8) :=
  match splitOn '.' cs with
  | [a, b, c, d] => do return (← octet? a, ← octet? b, ← octet? c, ← octet? d)
  | _ => none

def group? (cs : List Char) : Option UInt16 :=
  if 1 ≤ cs.length ∧ cs.length ≤ 4 then
    (cs.mapM Text.hexValue?).map fun ds => UInt16.ofNat (ds.foldl (fun n d => 16 * n + d) 0)
  else none

def groups? (parts : List (List Char)) : Option (List UInt16) :=
  match parts.reverse with
  | [] => some []
  | last :: before =>
    match v4? last with
    | some (a, b, c, d) => do
      let groups ← before.reverse.mapM group?
      return groups ++ [a.toUInt16 * 256 + b.toUInt16, c.toUInt16 * 256 + d.toUInt16]
    | none => parts.mapM group?

def side? (cs : List Char) : Option (List UInt16) :=
  if cs.isEmpty then some [] else groups? (splitOn ':' cs)

def splitDouble : List Char → Option (List Char × List Char)
  | [] => none
  | ':' :: ':' :: rest => some ([], rest)
  | c :: rest => (splitDouble rest).map fun (before, after) => (c :: before, after)

def ofGroups? (groups : List UInt16) : Option Ip :=
  if h : groups.length = 8 then some (.v6 ⟨groups.toArray, by simpa using h⟩) else none

/-- An address of the newer version; a double colon stands for the zeros that are missing. -/
def v6? (cs : List Char) : Option Ip :=
  match splitDouble cs with
  | none => (side? cs).bind ofGroups?
  | some (before, after) => do
    let high ← side? before
    let low ← side? after
    if high.length + low.length < 8 then
      ofGroups? (high ++ List.replicate (8 - high.length - low.length) 0 ++ low)
    else none

end Ip

namespace SocketAddress

def port? (cs : List Char) : Option UInt16 :=
  (Text.digits? cs).bind fun n => if n < UInt16.size then some (UInt16.ofNat n) else none

def scope? (cs : List Char) : Option UInt32 :=
  (Text.digits? cs).bind fun n => if n < UInt32.size then some (UInt32.ofNat n) else none

def scoped? (cs : List Char) : Option (Ip × UInt32) :=
  match cs.span (· != '%') with
  | (host, []) => (Ip.v6? host).map (·, 0)
  | (host, _ :: scope) => do return (← Ip.v6? host, ← scope? scope)

def splitPort (cs : List Char) : Option (List Char × List Char) :=
  match cs.reverse.span (· != ':') with
  | (_, []) => none
  | (port, _ :: host) => some (host.reverse, port.reverse)

def ofText? (text : String) : Option SocketAddress := do
  let (host, port) ← splitPort text.toList
  let port ← port? port
  match host with
  | '[' :: rest =>
    match rest.reverse with
    | ']' :: inner =>
      let (ip, scope) ← scoped? inner.reverse
      return ⟨ip, port, scope⟩
    | _ => none
  | _ =>
    let (a, b, c, d) ← Ip.v4? host
    return ⟨.v4 a b c d, port, 0⟩

end SocketAddress

end Emplace.Http
