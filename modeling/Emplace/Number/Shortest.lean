import Emplace.Text.Numeral

/-!
# Shortest decimals

The fewest significant digits that read back as a given real number, and among those the nearest to it. A
finite positive double is `mantissa · 2^exponent`; the numbers that round to it form an interval around it,
ends included when the mantissa is even.
-/

namespace Emplace.Number

/-- A finite positive double: `mantissa · 2^exponent`, and whether its lower neighbour is half as far away as
its upper one. -/
structure Binary where
  mantissa : Nat
  exponent : Int
  nearerBelow : Bool
  deriving DecidableEq, Repr, Inhabited

/-- The leading bit of the mantissa of every double but the smallest ones, where it is not stored. -/
def hiddenBit : Nat := 0x10000000000000

def Binary.ofFloat (x : Float) : Binary :=
  let bits : Nat := x.toBits.toNat
  let stored : Nat := bits % hiddenBit
  let field : Nat := bits / hiddenBit % 0x800
  if field = 0 then ⟨stored, -1074, false⟩
  else ⟨hiddenBit + stored, (field : Int) - 1075, stored == 0 && 1 < field⟩

structure Decimal where
  digits : Nat
  place : Int
  deriving DecidableEq, Repr, Inhabited

structure Interval where
  low : Nat
  value : Nat
  high : Nat
  denominator : Nat
  closed : Bool

def Interval.ofBinary (b : Binary) : Interval :=
  let scale := Nat.pow 2 b.exponent.toNat
  let denominator := 4 * Nat.pow 2 (-b.exponent).toNat
  ⟨(4 * b.mantissa - (if b.nearerBelow then 1 else 2)) * scale, 4 * b.mantissa * scale,
    (4 * b.mantissa + 2) * scale, denominator, b.mantissa % 2 == 0⟩

def Interval.scaledTo (i : Interval) (place : Int) : Interval :=
  let up := Nat.pow 10 (-place).toNat
  ⟨i.low * up, i.value * up, i.high * up, i.denominator * Nat.pow 10 place.toNat, i.closed⟩

def Interval.holds (i : Interval) (n : Nat) : Bool :=
  let n := n * i.denominator
  if i.closed then i.low ≤ n && n ≤ i.high else i.low < n && n < i.high

/-- The neighbour of the value on the grid of units that lies in the interval, the nearer one if both do and the
even one if they are equally near. -/
def Interval.nearest? (i : Interval) : Option Nat :=
  let below := i.value / i.denominator
  let rest := i.value % i.denominator
  match i.holds below, i.holds (below + 1) with
  | true, true =>
    if 2 * rest < i.denominator then some below
    else if i.denominator < 2 * rest then some (below + 1)
    else some (if below % 2 = 0 then below else below + 1)
  | true, false => some below
  | false, true => some (below + 1)
  | false, false => none

/-- The place of the first digit: the value is at least `10^place` and less than `10^(place + 1)`. -/
def Interval.leadingPlace (i : Interval) : Int :=
  let guess : Int := ((Nat.toDigits 10 i.value).length : Int) - (Nat.toDigits 10 i.denominator).length
  let atLeast (place : Int) : Bool :=
    i.denominator * Nat.pow 10 place.toNat ≤ i.value * Nat.pow 10 (-place).toNat
  if atLeast guess then guess else guess - 1

def Interval.shortestFrom (i : Interval) (leading : Int) : Nat → Nat → Decimal
  | 0, count => ⟨(i.scaledTo (leading - count + 1)).value / (i.scaledTo (leading - count + 1)).denominator,
      leading - count + 1⟩
  | bound + 1, count =>
    let place := leading - count + 1
    match (i.scaledTo place).nearest? with
    | some n => ⟨n, place⟩
    | none => shortestFrom i leading bound (count + 1)

def Decimal.trimmed (d : Decimal) : Nat → Decimal
  | 0 => d
  | bound + 1 =>
    if d.digits % 10 = 0 ∧ d.digits ≠ 0 then trimmed ⟨d.digits / 10, d.place + 1⟩ bound else d

def shortest (x : Float) : Decimal :=
  let i := Interval.ofBinary (Binary.ofFloat x)
  (i.shortestFrom i.leadingPlace 17 1).trimmed 20

end Emplace.Number
