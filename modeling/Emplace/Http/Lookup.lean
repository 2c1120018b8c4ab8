import Emplace.Http.Address
import Emplace.SystemError

namespace Emplace.Http

def valueIn (base : Nat) (cs : List Char) : Option Nat := do
  let digits ← cs.mapM Text.hexValue?
  if digits.all (· < base) then some (digits.foldl (fun n d => base * n + d) 0) else none

/-- A part of a numeric address: hexadecimal behind `0x`, octal behind a zero, else decimal. -/
def addressPart? : List Char → Option Nat
  | [] => none
  | '0' :: 'x' :: digits | '0' :: 'X' :: digits => if digits.isEmpty then none else valueIn 16 digits
  | '0' :: digits => valueIn 8 digits
  | digits => valueIn 10 digits

/-- The address of one to four parts, the last of which fills all bytes that are left. -/
def addressOfParts? : (bytesLeft : Nat) → List Nat → Option Nat
  | bytes, [last] => if last < Nat.pow 256 bytes then some last else none
  | bytes + 1, part :: rest =>
    if part < 256 then (addressOfParts? bytes rest).map (part * Nat.pow 256 bytes + ·) else none
  | _, _ => none

def looseAddress? (cs : List Char) : Option Ip := do
  let n ← addressOfParts? 4 (← (Ip.splitOn '.' cs).mapM addressPart?)
  let byte (place : Nat) : UInt8 := UInt8.ofNat (n / Nat.pow 256 place)
  return .v4 (byte 3) (byte 2) (byte 1) (byte 0)

def isNameChar (c : Char) : Bool := c.isAlphanum || c == '-' || c == '_' || c == '.'

def nameLimit : Nat := 253

def labelLimit : Nat := 63

def isHostName (cs : List Char) : Bool :=
  let name := if cs.getLast? = some '.' then cs.dropLast else cs
  cs == ['.'] ||
    (name.all isNameChar && name.head? != some '-' && name.length ≤ nameLimit &&
      (Ip.splitOn '.' name).all fun label => !label.isEmpty && label.length ≤ labelLimit)

def ownName : List Char := "localhost".toList

def lookUp (host : List Char) : Except SystemError (Ip × UInt32) :=
  if host.contains '\x00' then .error .nulInName
  else
    match looseAddress? host, SocketAddress.scoped? host with
    | some ip, _ => .ok (ip, 0)
    | none, some address => .ok address
    | none, none =>
      if host.map Char.toLower = ownName then .ok (.v4 127 0 0 1, 0)
      else if isHostName host then .error .lookupFailed
      else .error .unknownName

def locate (address : String) : Except SystemError SocketAddress :=
  match SocketAddress.ofText? address with
  | some found => .ok found
  | none =>
    match SocketAddress.splitPort address.toList with
    | none => .error .invalidSocketAddress
    | some (host, port) =>
      match (Text.word64? port).filter (· < UInt16.size) with
      | none => .error .invalidPort
      | some port => (lookUp host).map fun (ip, scope) => ⟨ip, UInt16.ofNat port, scope⟩

def Ip.isMulticast : Ip → Bool
  | .v4 a _ _ _ => 224 ≤ a && a < 240
  | .v6 groups => 0xFF00 ≤ (groups.toList.headD 0).toNat

def Ip.isLinkLocal : Ip → Bool
  | .v4 a b _ _ => a == 169 && b == 254
  | .v6 groups => groups.toList.headD 0 &&& 0xFFC0 == 0xFE80

def SocketAddress.refusal (address : SocketAddress) : SystemError :=
  match address.ip.canonical with
  | .v4 _ _ _ _ => .networkUnreachable
  | .v6 groups =>
    if (Ip.v6 groups).isMulticast then .networkUnreachable
    else if (Ip.v6 groups).isLinkLocal && address.scope == 0 then .invalidArgument
    else .addressNotAvailable

/-- What connecting fails with. `isKnown` tells the addresses that need no look-up. -/
def unreachable (isKnown : String → Bool) (address : String) : SystemError :=
  if isKnown address then .networkUnreachable
  else
    match locate address with
    | .error e => e
    | .ok found => found.refusal

end Emplace.Http
