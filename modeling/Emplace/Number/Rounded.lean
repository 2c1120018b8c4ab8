import Emplace.Text.Blank

namespace Emplace.Number

structure Fraction where
  numerator : Nat
  denominator : Nat
  deriving DecidableEq, Repr, Inhabited

namespace Fraction

def scaled (x : Fraction) (base : Nat) (exponent : Int) : Fraction :=
  ⟨x.numerator * Nat.pow base exponent.toNat, x.denominator * Nat.pow base (-exponent).toNat⟩

def rounded (x : Fraction) : Nat :=
  let below := x.numerator / x.denominator
  let rest := 2 * (x.numerator % x.denominator)
  if rest < x.denominator then below
  else if x.denominator < rest then below + 1
  else below + below % 2

def exponentNear (x : Fraction) (base : Nat) (guess : Int) : Int :=
  let power := (Fraction.mk 1 1).scaled base guess
  if power.numerator * x.denominator ≤ x.numerator * power.denominator then guess else guess - 1

def toBits (bits : Nat) (x : Fraction) : Fraction :=
  if x.numerator = 0 then x
  else
    let top := x.exponentNear 2 ((x.numerator.log2 : Int) - x.denominator.log2)
    let shift : Int := bits - 1 - top
    (Fraction.mk (x.scaled 2 shift).rounded 1).scaled 2 (-shift)

def digitsOf (least n : Nat) : List Char :=
  let digits := Nat.toDigits 10 n
  List.replicate (least - digits.length) '0' ++ digits

def pointed (point : Bool) (places : Nat) (digits : List Char) : List Char :=
  let (whole, rest) := digits.splitAt (digits.length - places)
  if rest.isEmpty && !point then whole else whole ++ '.' :: rest

def fixed (point : Bool) (places : Nat) (x : Fraction) : List Char :=
  pointed point places (digitsOf (places + 1) (x.scaled 10 places).rounded)

def leading (places : Nat) (x : Fraction) : List Char × Int :=
  if x.numerator = 0 then (List.replicate (places + 1) '0', 0)
  else
    let guess : Int := ((Nat.toDigits 10 x.numerator).length : Int) - (Nat.toDigits 10 x.denominator).length
    let top := x.exponentNear 10 guess
    let digits := digitsOf 1 (x.scaled 10 (places - top)).rounded
    if digits.length = places + 1 then (digits, top) else (digits.dropLast, top + 1)

def exponentText (letter : Char) (exponent : Int) : List Char :=
  letter :: (if exponent < 0 then '-' else '+') :: digitsOf 2 exponent.natAbs

def scientific (point : Bool) (letter : Char) (places : Nat) (x : Fraction) : List Char :=
  let (digits, top) := x.leading places
  pointed point places digits ++ exponentText letter top

def withoutZeros (cs : List Char) : List Char :=
  if cs.contains '.' then
    let kept := Text.dropEndWhile (· == '0') cs
    if kept.getLast? == some '.' then kept.dropLast else kept
  else cs

def general (zeros : Bool) (letter : Char) (digits : Nat) (x : Fraction) : List Char :=
  let places := digits - 1
  let (shown, top) := x.leading places
  let trim (cs : List Char) : List Char := if zeros then cs else withoutZeros cs
  if -4 ≤ top && top < (places + 1 : Nat) then trim (x.fixed zeros (places - top).toNat)
  else trim (pointed zeros places shown) ++ exponentText letter top

end Fraction

end Emplace.Number
