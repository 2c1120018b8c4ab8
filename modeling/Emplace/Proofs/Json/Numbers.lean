import Emplace.Proofs.Json.Strings
import Emplace.Proofs.Text.Numeral

namespace Emplace.Json

open Text (Symbol characters toDigits_head_zero toDigits_cons toString_int toString_int_cons)

def Ended (rest : List Symbol) : Prop :=
  rest = [] ∨ ∃ c tail, rest = .char c :: tail ∧ (c = ',' ∨ c = ']' ∨ c = '}')

theorem ended_cons (c : Char) (tail : List Symbol) (closing : c = ',' ∨ c = ']' ∨ c = '}') :
    Ended (.char c :: tail) := .inr ⟨c, tail, rfl, closing⟩

namespace Reader

theorem gather_eq (ds : List Char) (start : Nat) (fits : Nat.ofDigitChars 10 ds start < UInt64.size) :
    gather start ds = (Nat.ofDigitChars 10 ds start, 0) := by
  induction ds generalizing start with
  | nil => simp [gather]
  | cons d ds ih =>
      rw [Nat.ofDigitChars_cons] at fits ⊢
      have step := ih (10 * start + Text.digitValue d) fits
      have grows : 10 * start + Text.digitValue d ≤ Nat.ofDigitChars 10 ds (10 * start + Text.digitValue d) := by
        rw [Nat.ofDigitChars_eq_ofDigitChars_zero]
        have scale : 0 < 10 ^ ds.length := Nat.pow_pos (by omega)
        have := Nat.le_mul_of_pos_left (10 * start + Text.digitValue d) scale
        omega
      rw [gather, if_pos (Nat.lt_of_le_of_lt grows fits), step]
      rfl

theorem isDigit_of_ended {s : Symbol} {tail : List Symbol} (ended : Ended (s :: tail)) : isDigit s = false := by
  obtain eq | ⟨c, tail, eq, closing⟩ := ended
  · cases eq
  · cases eq
    rcases closing with rfl | rfl | rfl <;> rfl

theorem digitRun_append {ds : List Char} {rest : List Symbol} (digits : ∀ c ∈ ds, c.isDigit = true)
    (ended : Ended rest) : digitRun (characters ds ++ rest) = (ds, rest) := by
  have all : ∀ s ∈ characters ds, isDigit s = true := by
    intro s member
    obtain ⟨c, inside, rfl⟩ := List.mem_map.1 member
    exact digits c inside
  have stops : rest.takeWhile isDigit = [] ∧ rest.dropWhile isDigit = rest := by
    cases rest with
    | nil => simp
    | cons s tail => simp [isDigit_of_ended ended]
  simp only [digitRun, List.takeWhile_append_of_pos all, List.dropWhile_append_of_pos all, stops.1, stops.2,
    List.append_nil, Prod.mk.injEq, and_true]
  simp [characters, List.filterMap_map, Function.comp_def, Symbol.char?]

variable {n : Nat} {rest : List Symbol}

theorem wholeDigits_toDigits (care : Care) (ended : Ended rest) :
    wholeDigits care (characters (Nat.toDigits 10 n) ++ rest) = .ok (Nat.toDigits 10 n, rest) := by
  have digits : ∀ c ∈ Nat.toDigits 10 n, c.isDigit = true :=
    fun c member => Nat.isDigit_of_mem_toDigits (by omega) (by omega) member
  have run := digitRun_append digits ended
  have single : ∀ c cs, Nat.toDigits 10 n ≠ '0' :: c :: cs := by
    intro c cs eq
    have zero : n = 0 := toDigits_head_zero (by rw [eq]; rfl)
    rw [zero, Nat.toDigits_zero] at eq
    cases eq
  obtain ⟨d, ds, eq⟩ := List.exists_cons_of_ne_nil (Nat.toDigits_ne_nil (n := n) (b := 10))
  simp only [wholeDigits, someDigits, run]
  rw [eq] at single ⊢
  simp only
  split
  · rename_i same
    cases same
    exact absurd rfl (single _ _)
  · rfl

theorem fractionPart_ended (care : Care) (ended : Ended rest) : fractionPart care rest = .ok (none, rest) := by
  obtain rfl | ⟨c, tail, rfl, rfl | rfl | rfl⟩ := ended <;> rfl

theorem exponentPart_ended (care : Care) (ended : Ended rest) : exponentPart care rest = .ok (none, rest) := by
  obtain rfl | ⟨c, tail, rfl, rfl | rfl | rfl⟩ := ended <;> rfl

theorem numeral_toDigits (care : Care) (ended : Ended rest) :
    numeral care (characters (Nat.toDigits 10 n) ++ rest) =
      .ok (⟨false, Nat.toDigits 10 n, [], false, none⟩, rest) := by
  have whole := wholeDigits_toDigits (n := n) care ended
  obtain ⟨d, ds, eq, digit⟩ := toDigits_cons n
  have unsigned : d ≠ '-' := by rintro rfl; cases digit
  rw [numeral]
  · simp [whole, fractionPart_ended care ended, exponentPart_ended care ended]
  · intro rest minus
    simp_all

theorem numeral_minus_toDigits (care : Care) (ended : Ended rest) :
    numeral care (.char '-' :: (characters (Nat.toDigits 10 n) ++ rest)) =
      .ok (⟨true, Nat.toDigits 10 n, [], false, none⟩, rest) := by
  simp [numeral, wholeDigits_toDigits (n := n) care ended, fractionPart_ended care ended,
    exponentPart_ended care ended]

theorem number_toDigits (fits : n < UInt64.size) (ended : Ended rest) :
    number (characters (Nat.toDigits 10 n) ++ rest) = .ok (.natural (UInt64.ofNat n), rest) := by
  have digits : gather 0 (Nat.toDigits 10 n) = (n, 0) := by
    have := gather_eq (Nat.toDigits 10 n) 0
    rw [Nat.ofDigitChars_ten_toDigits] at this
    exact this fits
  simp [number, numeral_toDigits .wanted ended, Numeral.value, digits, gather, Except.map]

theorem number_minus_toDigits (positive : 0 < n) (fits : n ≤ 0x8000000000000000) (ended : Ended rest) :
    number (.char '-' :: (characters (Nat.toDigits 10 n) ++ rest)) = .ok (.negative (Int64.ofInt (-n)), rest) := by
  have digits : gather 0 (Nat.toDigits 10 n) = (n, 0) := by
    have := gather_eq (Nat.toDigits 10 n) 0
    rw [Nat.ofDigitChars_ten_toDigits] at this
    exact this (Nat.lt_of_le_of_lt fits (by decide))
  simp [number, numeral_minus_toDigits .wanted ended, Numeral.value, digits, gather, Except.map, positive, fits]

theorem number_toString {z : Int} (low : -0x8000000000000000 ≤ z) (high : z < UInt64.size) (ended : Ended rest) :
    number (characters (toString z).toList ++ rest) =
      .ok (if 0 ≤ z then .natural (UInt64.ofNat z.toNat) else .negative (Int64.ofInt z), rest) := by
  rw [toString_int]
  split
  · rename_i sign
    exact number_toDigits (by omega) ended
  · rename_i sign
    have read := number_minus_toDigits (n := (-z).toNat) (by omega) (by omega) ended
    rw [show -(((-z).toNat : Nat) : Int) = z by omega] at read
    simpa using read

theorem isBlank_digit {c : Char} (digit : c.isDigit = true) : isBlank (.char c) = false := by
  simp only [isBlank, Bool.or_eq_false_iff, beq_eq_false_iff_ne, ne_eq, Symbol.char.injEq]
  refine ⟨⟨⟨?_, ?_⟩, ?_⟩, ?_⟩ <;> rintro rfl <;> cases digit

theorem numberThat_cons {α : Type} (accept : Number → Option α) {c : Char} (lead : c = '-' ∨ c.isDigit = true)
    (tail : List Symbol) : numberThat accept (.char c :: tail) = numberThat.taken accept (.char c :: tail) := by
  rcases lead with rfl | digit
  · rfl
  · have unsigned : c ≠ '-' := by rintro rfl; cases digit
    rw [numberThat, afterBlanks, skipBlanks, List.dropWhile_cons_of_neg (by simp [isBlank_digit digit])]
    split
    · simp_all
    · rename_i eq
      cases eq
      rw [if_pos (show isDigit (.char c) = true from digit)]
    · simp_all

theorem numberThat_toString {α : Type} {accept : Number → Option α} {z : Int} {a : α}
    (low : -0x8000000000000000 ≤ z) (high : z < UInt64.size) (ended : Ended rest)
    (taken : accept (if 0 ≤ z then .natural (UInt64.ofNat z.toNat) else .negative (Int64.ofInt z)) = some a) :
    numberThat accept (characters (toString z).toList ++ rest) = .ok (a, rest) := by
  have read : numberThat.taken accept (characters (toString z).toList ++ rest) = .ok (a, rest) := by
    rw [numberThat.taken, andThen, number_toString low high ended]
    simp only [taken, yield]
  obtain ⟨c, cs, eq, lead⟩ := toString_int_cons z
  rw [eq] at read ⊢
  rw [← read]
  exact numberThat_cons accept lead (characters cs ++ rest)

end Reader

end Emplace.Json
