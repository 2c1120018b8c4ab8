import Emplace.Scoring.Formula
import Mathlib.Data.Prod.Lex

namespace Emplace.Score

open Float.Model (UnpackedFloat)

variable {x y : Float}

/-- Exponent and mantissa of a score, if it is a finite number other than zero. -/
def key (x : Float) : ℤ ×ₗ ℕ :=
  match x.toModel.unpack with
  | .finite _ mantissa exponent _ => toLex (exponent, mantissa)
  | _ => toLex (0, 0)

theorem lt_iff_compare : x < y ↔ x.toModel.unpack.compare y.toModel.unpack = some .lt := by
  change decide (x.toModel < y.toModel) = true ↔ _
  rw [decide_eq_true_iff]
  exact beq_iff_eq

theorem le_iff_compare :
    x ≤ y ↔ ∃ order, x.toModel.unpack.compare y.toModel.unpack = some order ∧ order.isLE = true := by
  change decide (x.toModel ≤ y.toModel) = true ↔ _
  rw [decide_eq_true_iff]
  change Option.any _ _ = true ↔ _
  exact Option.any_eq_true ..

theorem unpack_zero : (0 : Float).toModel.unpack = .zero .positive := by rfl

theorem pos_iff :
    0 < x ↔
      (∃ mantissa exponent positive, x.toModel.unpack = .finite .positive mantissa exponent positive) ∨
        x.toModel.unpack = .infinity .positive := by
  rw [lt_iff_compare, unpack_zero]
  constructor
  · intro less
    cases form : x.toModel.unpack with
    | notANumber => rw [form] at less; cases less
    | zero sign => cases sign <;> (rw [form] at less; cases less)
    | infinity sign =>
        cases sign with
        | positive => exact .inr rfl
        | negative => rw [form] at less; cases less
    | finite sign mantissa exponent positive =>
        cases sign with
        | positive => exact .inl ⟨mantissa, exponent, positive, rfl⟩
        | negative => rw [form] at less; cases less
  · rintro (⟨mantissa, exponent, positive, form⟩ | form) <;> rw [form] <;> rfl

theorem pos_of_isUsable (usable : isUsable x = true) : 0 < x :=
  of_decide_eq_true (Bool.and_eq_true_iff.1 usable).2

theorem unpack_of_isUsable (usable : isUsable x = true) :
    ∃ mantissa exponent positive, x.toModel.unpack = .finite .positive mantissa exponent positive := by
  rcases pos_iff.1 (pos_of_isUsable usable) with form | infinite
  · exact form
  · have finite : x.toModel.unpack.isFinite = true := (Bool.and_eq_true_iff.1 usable).1
    rw [infinite] at finite
    cases finite

theorem compare_eq (usable : isUsable x = true) (usable' : isUsable y = true) :
    x.toModel.unpack.compare y.toModel.unpack = some (compare (key x) (key y)) := by
  obtain ⟨mantissa, exponent, positive, form⟩ := unpack_of_isUsable usable
  obtain ⟨mantissa', exponent', positive', form'⟩ := unpack_of_isUsable usable'
  rw [key, key, form, form']
  rfl

theorem lt_iff_key_lt (usable : isUsable x = true) (usable' : isUsable y = true) : x < y ↔ key x < key y := by
  rw [lt_iff_compare, compare_eq usable usable', Option.some.injEq, compare_lt_iff_lt]

theorem le_iff_key_le (usable : isUsable x = true) (usable' : isUsable y = true) : x ≤ y ↔ key x ≤ key y := by
  rw [le_iff_compare, compare_eq usable usable', ← compare_le_iff_le]
  simp only [Option.some.injEq, exists_eq_left', ne_eq, Ordering.isLE_iff_ne_gt]

end Emplace.Score
