import Mathlib

/-!
# Doubles of whole numbers

A whole number below `2 ^ 128`, and a quotient of two, is stored as a normal double whose mantissa of 53 bits is off by
a unit in the last place at most (`Stores`). This is far from all that rounding to the nearest double promises, but
enough to tell two quotients apart (`nearest_div_ne`).
-/

namespace Emplace.Number

open Float.Model (Format UnpackedFloat totalExponent)
open Float.Model.UnpackedFloat

/-- The double nearest to a number. -/
def nearest (n : ℕ) : Float := .ofModel (.ofNat n)

/-- A mantissa of 53 bits that is off from a fraction by a unit in the last place at most. -/
structure Rounds (m : ℕ) (e : ℤ) (q : ℚ) : Prop where
  wide : 2 ^ 52 ≤ m
  narrow : m < 2 ^ 53
  near : |(m : ℚ) * 2 ^ e - q| ≤ 2 ^ e

theorem mantissa_shiftRight (em : ExtendedMantissa) (k : ℕ) : (em >>> k).mantissa = em.mantissa / 2 ^ k := by
  induction k with
  | zero => exact (Nat.div_one _).symm
  | succ k ih =>
    change (em >>> k).mantissa / 2 = _
    rw [ih, Nat.div_div_eq_div_mul, pow_succ]

theorem mantissa_ofMantissaAndAccuracy (M : ℕ) (accuracy : Accuracy) :
    (ExtendedMantissa.ofMantissaAndAccuracy M accuracy).mantissa = M := by
  cases accuracy with
  | exact => rfl
  | inexact order => cases order <;> rfl

theorem roundedMantissa_cases (em : ExtendedMantissa) :
    em.roundedMantissa = em.mantissa ∨ em.roundedMantissa = em.mantissa + 1 := by
  match em with
  | ⟨_, false, false⟩ => exact .inl rfl
  | ⟨_, false, true⟩ => exact .inl rfl
  | ⟨M, true, false⟩ =>
    change M + M % 2 = M ∨ M + M % 2 = M + 1
    omega
  | ⟨_, true, true⟩ => exact .inr rfl

theorem shiftToTargetExponent_of_wide {M : ℕ} {E : ℤ} (wide : 2 ^ 52 ≤ M) (high : -1074 ≤ E) (accuracy : Accuracy) :
    (shiftToTargetExponent .binary64 M E accuracy).1.mantissa = M / 2 ^ (M.log2 - 52) ∧
      (shiftToTargetExponent .binary64 M E accuracy).2 = E + (M.log2 - 52 : ℕ) := by
  have bits : 52 ≤ M.log2 := (Nat.le_log2 (by omega)).2 wide
  have shift : (Format.binary64.targetExponent (totalExponent M E) - E).toNat = M.log2 - 52 := by
    simp only [Format.targetExponent, totalExponent, Format.mantissaBits, Format.minExponent]
    omega
  simp only [shiftToTargetExponent, shiftToExponent, shift, mantissa_shiftRight, mantissa_ofMantissaAndAccuracy,
    and_self]

theorem shifted_bounds {M k : ℕ} {E : ℤ} {q : ℚ} (low : M * 2 ^ E ≤ q) (high : q ≤ (M + 1) * 2 ^ E) :
    (M / 2 ^ k : ℕ) * 2 ^ (E + k) ≤ q ∧ q ≤ ((M / 2 ^ k : ℕ) + 1) * 2 ^ (E + k) := by
  have unit : (2 : ℚ) ^ (E + k) = 2 ^ k * 2 ^ E := by rw [zpow_add₀ two_ne_zero, zpow_natCast, mul_comm]
  have positive : (0 : ℚ) ≤ 2 ^ E := by positivity
  have below : ((M / 2 ^ k : ℕ) : ℚ) * 2 ^ k ≤ M := by exact_mod_cast Nat.div_mul_le_self M (2 ^ k)
  have above : (M : ℚ) + 1 ≤ ((M / 2 ^ k : ℕ) + 1) * 2 ^ k := by
    have next := Nat.lt_mul_div_succ M (Nat.two_pow_pos k)
    rw [mul_comm] at next
    exact_mod_cast next
  rw [unit, ← mul_assoc, ← mul_assoc]
  exact ⟨(mul_le_mul_of_nonneg_right below positive).trans low,
    high.trans (mul_le_mul_of_nonneg_right above positive)⟩

theorem shifted_width {M : ℕ} (wide : 2 ^ 52 ≤ M) :
    2 ^ 52 ≤ M / 2 ^ (M.log2 - 52) ∧ M / 2 ^ (M.log2 - 52) < 2 ^ 53 := by
  have bits : 52 ≤ M.log2 := (Nat.le_log2 (by omega)).2 wide
  have width : 53 + (M.log2 - 52) = M.log2 + 1 := by omega
  constructor
  · rw [Nat.le_div_iff_mul_le (Nat.two_pow_pos _), ← pow_add, Nat.add_sub_cancel' bits]
    exact Nat.log2_self_le (by omega)
  · rw [Nat.div_lt_iff_lt_mul (Nat.two_pow_pos _), ← pow_add, width]
    exact Nat.lt_log2_self

theorem carried {R : ℕ} (least : 2 ^ 52 ≤ R) (most : R ≤ 2 ^ 53) (e : ℤ) :
    R.log2 ≤ 53 ∧ ((R / 2 ^ (R.log2 - 52) : ℕ) : ℚ) * 2 ^ (e + (R.log2 - 52 : ℕ)) = R * 2 ^ e := by
  rcases Nat.lt_or_eq_of_le most with narrow | rfl
  · have bits : R.log2 = 52 := (Nat.log2_eq_iff (by omega)).2 ⟨least, narrow⟩
    simp [bits]
  · have half : (2 : ℚ) ^ (e + 1) = 2 ^ e * 2 := zpow_add_one₀ two_ne_zero e
    rw [Nat.log2_two_pow]
    norm_num [half]
    ring

theorem roundWithAccuracy_of_wide {M : ℕ} {E : ℤ} {q : ℚ} (wide : 2 ^ 52 ≤ M) (high : -1074 ≤ E) (accuracy : Accuracy)
    (below : M * 2 ^ E ≤ q) (above : q ≤ (M + 1) * 2 ^ E) :
    ∃ m e positive, roundWithAccuracy .binary64 .positive M E accuracy = .finite .positive m e positive ∧
      E ≤ e ∧ e ≤ E + (M.log2 - 51) ∧ Rounds m e q := by
  have bits : 52 ≤ M.log2 := (Nat.le_log2 (by omega)).2 wide
  obtain ⟨least, most⟩ := shifted_width wide
  obtain ⟨mantissa, exponent⟩ := shiftToTargetExponent_of_wide wide high accuracy
  have rounded := roundedMantissa_cases (shiftToTargetExponent .binary64 M E accuracy).1
  rw [mantissa] at rounded
  rw [roundWithAccuracy]
  generalize shiftToTargetExponent .binary64 M E accuracy = first at exponent rounded ⊢
  obtain ⟨em, e⟩ := first
  simp only at exponent rounded ⊢
  generalize em.roundedMantissa = R at rounded ⊢
  subst exponent
  -- Rounding up may give one bit too many, so that the result is shifted once more.
  have least' : 2 ^ 52 ≤ R := by omega
  obtain ⟨wide', narrow'⟩ := shifted_width least'
  obtain ⟨bits', same⟩ := carried least' (by omega) (E + (M.log2 - 52 : ℕ))
  obtain ⟨mantissa', exponent'⟩ := shiftToTargetExponent_of_wide (E := E + (M.log2 - 52 : ℕ)) least' (by omega) .exact
  rw [← mantissa', ← exponent'] at same
  rw [← mantissa'] at wide' narrow'
  refine ⟨_, _, by omega, dif_neg (by omega), by omega, by omega, wide', narrow', ?_⟩
  obtain ⟨below', above'⟩ := shifted_bounds (k := M.log2 - 52) below above
  have unit : (2 : ℚ) ^ (E + (M.log2 - 52 : ℕ)) ≤
      2 ^ (shiftToTargetExponent .binary64 R (E + (M.log2 - 52 : ℕ)) .exact).2 :=
    zpow_le_zpow_right₀ one_le_two (by omega)
  rw [same, abs_le]
  rcases rounded with rfl | rfl
  · constructor <;> linarith
  · push_cast
    constructor <;> linarith

theorem pack_eq_packComponents {m biased : ℕ} {e : ℤ} {positive : 0 < m} (bits : m.log2 = 52)
    (bias : biased = e + 1075) (high : biased < 2047) :
    UnpackedFloat.pack .binary64 (.finite .positive m e positive) =
      packComponents .binary64 .positive (BitVec.ofNat 11 biased) (BitVec.ofNat 52 m) := by
  have shifted : (e + (1023 : ℕ) + (52 : ℕ)).toNat = biased := by omega
  have finite : ¬2 ^ 11 ≤ (e + (1023 : ℕ) + (52 : ℕ)).toNat + 1 := by omega
  have normal : m.log2 + 1 = 53 := by omega
  change (if 2 ^ 11 ≤ (e + (1023 : ℕ) + (52 : ℕ)).toNat + 1 then _ else if m.log2 + 1 = 53 then _ else _) = _
  rw [if_neg finite, if_pos normal]
  exact congrArg (fun b => packComponents .binary64 .positive (BitVec.ofNat 11 b) (BitVec.ofNat 52 m)) shifted

theorem ofNat_ne_of_lt {b c : ℕ} (differ : b ≠ c) (small : b < 2 ^ 11) (small' : c < 2 ^ 11) :
    BitVec.ofNat 11 b ≠ BitVec.ofNat 11 c := by
  intro same
  have values := congrArg BitVec.toNat same
  rw [BitVec.toNat_ofNat, BitVec.toNat_ofNat, Nat.mod_eq_of_lt small, Nat.mod_eq_of_lt small'] at values
  exact differ values

theorem unpack_pack {m : ℕ} {e : ℤ} {positive : 0 < m} (wide : 2 ^ 52 ≤ m) (narrow : m < 2 ^ 53) (low : -1074 ≤ e)
    (high : e ≤ 971) :
    (Float.Model.pack (.finite .positive m e positive)).unpack = .finite .positive m e positive := by
  have bits : m.log2 = 52 := (Nat.log2_eq_iff (by omega)).2 ⟨wide, narrow⟩
  obtain ⟨biased, bias⟩ : ∃ biased : ℕ, (biased : ℤ) = e + 1075 := ⟨(e + 1075).toNat, by omega⟩
  have notLast : BitVec.ofNat 11 biased ≠ -1#11 := ofNat_ne_of_lt (c := 2047) (by omega) (by omega) (by omega)
  have notFirst : BitVec.ofNat 11 biased ≠ 0#11 := ofNat_ne_of_lt (by omega) (by omega) (by omega)
  have exponent : ((BitVec.ofNat 11 biased).toNat : ℤ) - ((1023 : ℕ) + (52 : ℕ)) = e := by
    rw [BitVec.toNat_ofNat]
    omega
  have mantissa : (1#1 ++ BitVec.ofNat 52 m).toNat = m := by
    rw [BitVec.toNat_append, ← Nat.shiftLeft_add_eq_or_of_lt (BitVec.isLt _), BitVec.toNat_ofNat]
    change 2 ^ 52 + m % 2 ^ 52 = m
    omega
  change UnpackedFloat.unpack .binary64 (UnpackedFloat.pack .binary64 (.finite .positive m e positive)) = _
  rw [pack_eq_packComponents bits bias (by omega), UnpackedFloat.unpack]
  simp only [unpackMantissa_packComponents, unpackExponent_packComponents, unpackSign_packComponents]
  rw [if_neg notLast, if_neg notFirst, UnpackedFloat.finite.injEq]
  exact ⟨rfl, mantissa, exponent⟩

theorem log2_shiftLeft {n : ℕ} (positive : 0 < n) (k : ℕ) : (n <<< k).log2 = n.log2 + k := by
  have low := Nat.mul_le_mul_right (2 ^ k) (Nat.log2_self_le positive.ne')
  have high := Nat.mul_lt_mul_of_pos_right (Nat.lt_log2_self (n := n)) (Nat.two_pow_pos k)
  rw [Nat.log2_eq_iff (Nat.shiftLeft_pos_iff.2 positive).ne', Nat.shiftLeft_eq, Nat.add_right_comm, pow_add, pow_add]
  exact ⟨low, high⟩

structure Stores (x : Float) (m : ℕ) (e : ℤ) (q : ℚ) : Prop extends Rounds m e q where
  unpack_eq : ∃ positive, x.toModel.unpack = .finite .positive m e positive

theorem Stores.log2_eq {x : Float} {m : ℕ} {e : ℤ} {q : ℚ} (stores : Stores x m e q) : m.log2 = 52 :=
  (Nat.log2_eq_iff (Nat.ne_of_gt (lt_of_lt_of_le (by decide) stores.wide))).2 ⟨stores.wide, stores.narrow⟩

theorem Stores.unique {x : Float} {m m' : ℕ} {e e' : ℤ} {q q' : ℚ} (stores : Stores x m e q)
    (stores' : Stores x m' e' q') : m = m' ∧ e = e' := by
  obtain ⟨_, unpacked⟩ := stores.unpack_eq
  obtain ⟨_, unpacked'⟩ := stores'.unpack_eq
  rw [unpacked, UnpackedFloat.finite.injEq] at unpacked'
  exact unpacked'.2

theorem stores_of_round {x : Float} {M : ℕ} {E : ℤ} {accuracy : Accuracy} {q : ℚ}
    (given : x.toModel = .pack (roundWithAccuracy .binary64 .positive M E accuracy)) (wide : 2 ^ 52 ≤ M)
    (low : -1074 ≤ E) (high : E + (M.log2 - 51) ≤ 971) (below : M * 2 ^ E ≤ q) (above : q ≤ (M + 1) * 2 ^ E) :
    ∃ m e, Stores x m e q ∧ E ≤ e ∧ e ≤ E + (M.log2 - 51) := by
  obtain ⟨m, e, positive, rounded, least, most, rounds⟩ := roundWithAccuracy_of_wide wide low accuracy below above
  refine ⟨m, e, ⟨rounds, positive, ?_⟩, least, most⟩
  rw [given, rounded, unpack_pack rounds.wide rounds.narrow (by omega) (by omega)]

theorem stores_nearest {n : ℕ} (positive : 0 < n) (small : n < 2 ^ 128) :
    ∃ m e, Stores (nearest n) m e n ∧ -52 ≤ e ∧ e ≤ 77 := by
  have bits : n.log2 < 128 := (Nat.log2_lt positive.ne').2 small
  have target : Format.binary64.targetExponent (totalExponent n 0) = n.log2 - 52 := by
    simp only [Format.targetExponent, totalExponent, Format.mantissaBits, Format.minExponent]
    omega
  have shift : (0 - ((n.log2 : ℤ) - 52)).toNat = 52 - n.log2 := by omega
  have given : (nearest n).toModel =
      .pack (roundWithAccuracy .binary64 .positive (n <<< (52 - n.log2)) (0 - (52 - n.log2 : ℕ)) .exact) := by
    change Float.Model.pack (UnpackedFloat.normalize .binary64 n 0 .positive) = _
    rw [UnpackedFloat.normalize, Int.compare_eq_gt.2 (by omega)]
    simp only [Int.toNat_natCast, UnpackedFloat.round, target, decreaseExponent, shift]
  -- A short mantissa is filled up with zeros, so that what is rounded is the number itself.
  have width := log2_shiftLeft positive (52 - n.log2)
  have wide : 2 ^ 52 ≤ n <<< (52 - n.log2) :=
    (Nat.le_log2 (Nat.shiftLeft_pos_iff.2 positive).ne').1 (by omega)
  have whole : ((n <<< (52 - n.log2) : ℕ) : ℚ) * 2 ^ (0 - (52 - n.log2 : ℕ) : ℤ) = n := by
    rw [Nat.shiftLeft_eq, zero_sub, zpow_neg, zpow_natCast, Nat.cast_mul, Nat.cast_pow, Nat.cast_ofNat]
    exact mul_inv_cancel_right₀ (by positivity) _
  have next : (n : ℚ) ≤ ((n <<< (52 - n.log2) : ℕ) + 1) * 2 ^ (0 - (52 - n.log2 : ℕ) : ℤ) := by
    rw [add_mul, whole]
    exact le_add_of_nonneg_right (by positivity)
  obtain ⟨m, e, stores, low, high⟩ := stores_of_round given wide (by omega) (by omega) whole.le next
  exact ⟨m, e, stores, by omega, by omega⟩

theorem div_le_next (m n : ℕ) : (m : ℚ) / n ≤ (m / n : ℕ) + 1 := by
  rw [← Nat.floor_div_eq_div (K := ℚ)]
  exact (Nat.lt_floor_add_one _).le

theorem Stores.div {x y : Float} {m n : ℕ} {e f : ℤ} {q r : ℚ} (dividend : Stores x m e q) (divisor : Stores y n f r)
    (low : -1000 ≤ e - f) (high : e - f ≤ 900) : ∃ k g, Stores (x / y) k g (m * 2 ^ e / (n * 2 ^ f)) := by
  obtain ⟨positive, unpacked⟩ := dividend.unpack_eq
  obtain ⟨positive', unpacked'⟩ := divisor.unpack_eq
  have target : min (e - f) (Format.binary64.targetExponent (totalExponent m e - totalExponent n f)) = e - f - 53 := by
    simp only [Format.targetExponent, totalExponent, Format.mantissaBits, Format.minExponent, dividend.log2_eq,
      divisor.log2_eq]
    omega
  have shift : (e - f - (e - f - 53)).toNat = 53 := by omega
  have given : (x / y).toModel = .pack (roundWithAccuracy .binary64 .positive (m * 2 ^ 53 / n) (e - f - 53)
      (accuracyOfFraction (m * 2 ^ 53 % n) n)) := by
    change Float.Model.pack (.div .binary64 x.toModel.unpack y.toModel.unpack) = _
    rw [unpacked, unpacked', UnpackedFloat.div, divCore, target, shift, Nat.shiftLeft_eq]
    rfl
  -- Of two mantissas of 53 bits, the one filled up with as many zeros has a quotient of 53 bits or 54.
  obtain ⟨⟨wide, narrow, -⟩, -⟩ := dividend
  obtain ⟨⟨wide', narrow', -⟩, -⟩ := divisor
  have least : 2 ^ 52 ≤ m * 2 ^ 53 / n := by
    rw [Nat.le_div_iff_mul_le positive']
    omega
  have most : m * 2 ^ 53 / n < 2 ^ 54 := by
    rw [Nat.div_lt_iff_lt_mul positive']
    omega
  have width : (m * 2 ^ 53 / n).log2 < 54 := (Nat.log2_lt (by omega)).2 most
  have whole : (m * 2 ^ e / (n * 2 ^ f) : ℚ) = (m * 2 ^ 53 : ℕ) / n * 2 ^ (e - f - 53) := by
    rw [zpow_sub₀ two_ne_zero, zpow_sub₀ two_ne_zero]
    push_cast
    field_simp
  have unit : (0 : ℚ) ≤ 2 ^ (e - f - 53) := by positivity
  obtain ⟨k, g, stores, -, -⟩ := stores_of_round given least (by omega) (by omega)
    (whole ▸ mul_le_mul_of_nonneg_right Nat.cast_div_le unit)
    (whole ▸ mul_le_mul_of_nonneg_right (div_le_next _ n) unit)
  exact ⟨k, g, stores⟩

theorem Rounds.ratio {m : ℕ} {e : ℤ} {q : ℚ} (rounds : Rounds m e q) :
    (2 ^ 52 - 1) * (m * 2 ^ e) ≤ 2 ^ 52 * q ∧ 2 ^ 52 * q ≤ (2 ^ 52 + 1) * (m * 2 ^ e) := by
  have unit : (2 : ℚ) ^ 52 * 2 ^ e ≤ m * 2 ^ e :=
    mul_le_mul_of_nonneg_right (by exact_mod_cast rounds.wide) (by positivity)
  obtain ⟨below, above⟩ := abs_le.1 rounds.near
  constructor <;> linarith

theorem Rounds.alike {m : ℕ} {e : ℤ} {q q' : ℚ} (rounds : Rounds m e q) (rounds' : Rounds m e q') :
    (2 ^ 52 - 1) * q ≤ (2 ^ 52 + 1) * q' := by
  have above := rounds.ratio.2
  have below := rounds'.ratio.1
  linarith

theorem unpack_nearest_zero_div {y : Float} {n : ℕ} {f : ℤ} {r : ℚ} (divisor : Stores y n f r) :
    (nearest 0 / y).toModel.unpack = .zero .positive := by
  obtain ⟨_, unpacked⟩ := divisor.unpack_eq
  change UnpackedFloat.unpack .binary64 (UnpackedFloat.pack .binary64 (.div .binary64
    (UnpackedFloat.unpack .binary64 (packedZero .binary64 .positive)) y.toModel.unpack)) = _
  rw [unpacked, unpack_packedZero]
  exact unpack_packedZero

theorem nearest_div_ne {r s n : ℕ} (twice : 2 * r < s) (positive : 0 < n) (small : s < 2 ^ 128) (small' : n < 2 ^ 128) :
    nearest r / nearest n ≠ nearest s / nearest n := by
  intro same
  obtain ⟨d, f, divisor, lowD, highD⟩ := stores_nearest positive small'
  obtain ⟨a, e, dividend, lowA, highA⟩ := stores_nearest (n := s) (by omega) small
  obtain ⟨k, g, quotient⟩ := dividend.div divisor (by omega) (by omega)
  rcases Nat.eq_zero_or_pos r with rfl | left
  · obtain ⟨_, unpacked⟩ := quotient.unpack_eq
    rw [← same, unpack_nearest_zero_div divisor] at unpacked
    exact UnpackedFloat.noConfusion unpacked
  obtain ⟨b, e', dividend', lowB, highB⟩ := stores_nearest left (by omega)
  obtain ⟨k', g', quotient'⟩ := dividend'.div divisor (by omega) (by omega)
  obtain ⟨rfl, rfl⟩ := quotient.unique (same ▸ quotient')
  have whole : (0 : ℚ) < d * 2 ^ f := by
    have present : (2 ^ 52 : ℚ) ≤ d := by exact_mod_cast divisor.wide
    positivity
  -- The one divisor cancels, so the two dividends are nearly equal.
  have alike : (2 ^ 52 - 1) * (a * 2 ^ e : ℚ) ≤ (2 ^ 52 + 1) * (b * 2 ^ e') := by
    have quotients := quotient.alike quotient'.toRounds
    rwa [← mul_div_assoc, ← mul_div_assoc, div_le_div_iff_of_pos_right whole] at quotients
  have above : 2 ^ 52 * (s : ℚ) ≤ (2 ^ 52 + 1) * (a * 2 ^ e) := dividend.ratio.2
  have below : (2 ^ 52 - 1) * (b * 2 ^ e') ≤ 2 ^ 52 * (r : ℚ) := dividend'.ratio.1
  have apart : 2 * (r : ℚ) < s := by exact_mod_cast twice
  have least : (0 : ℚ) < r := by exact_mod_cast left
  linarith

end Emplace.Number
