import Emplace.Proofs.Text.Trimming
import Emplace.Text.Numeral
import Mathlib.Data.List.Induction
import Mathlib.Data.Nat.Digits.Defs

namespace Emplace.Text

theorem toDigits_head_zero {n : Nat} (head : (Nat.toDigits 10 n).head? = some '0') : n = 0 := by
  induction n using Nat.strongRecOn with
  | ind n ih =>
      rw [Nat.toDigits_eq_if (by omega)] at head
      split at head
      · rename_i small
        have all : ∀ n < 10, n.digitChar = '0' → n = 0 := by decide
        exact all n small (by simpa using head)
      · have shorter : n / 10 < n := by omega
        rw [List.head?_append, Option.or_of_isSome (by simp [Nat.toDigits_ne_nil])] at head
        have := ih (n / 10) shorter head
        omega

theorem toDigits_cons (n : Nat) : ∃ d ds, Nat.toDigits 10 n = d :: ds ∧ d.isDigit = true := by
  obtain ⟨d, ds, eq⟩ := List.exists_cons_of_ne_nil (Nat.toDigits_ne_nil (n := n) (b := 10))
  exact ⟨d, ds, eq, Nat.isDigit_of_mem_toDigits (b := 10) (n := n) (by omega) (by omega) (by simp [eq])⟩

theorem digitsValue_toDigits (n : Nat) : digitsValue (Nat.toDigits 10 n) = n :=
  Nat.ofDigitChars_ten_toDigits

theorem toString_int (z : Int) :
    (toString z).toList = if 0 ≤ z then Nat.toDigits 10 z.toNat else '-' :: Nat.toDigits 10 (-z).toNat := by
  rw [Int.toString_eq_repr, Int.repr_eq_if]
  split <;> simp

theorem toString_int_cons (z : Int) :
    ∃ c cs, (toString z).toList = c :: cs ∧ (c = '-' ∨ c.isDigit = true) := by
  rw [toString_int]
  split
  · obtain ⟨d, ds, eq, digit⟩ := toDigits_cons z.toNat
    exact ⟨d, ds, eq, .inr digit⟩
  · exact ⟨_, _, rfl, .inl rfl⟩

def Denotes (cs : List Char) (n : Nat) : Prop :=
  ∃ sign digits, cs = sign ++ digits ∧ (sign = [] ∨ sign = ['+']) ∧ digits ≠ [] ∧
    (∀ c ∈ digits, c.isDigit = true) ∧ n = Nat.ofDigits 10 (digits.reverse.map digitValue) ∧ n < 2 ^ 64

theorem digitsValue_eq_ofDigits (digits : List Char) :
    digitsValue digits = Nat.ofDigits 10 (digits.reverse.map digitValue) := by
  induction digits using List.reverseRecOn with
  | nil => rfl
  | append_singleton digits c ih =>
      rw [digitsValue_append_singleton, ih, List.reverse_append, List.reverse_singleton, List.singleton_append,
        List.map_cons, Nat.ofDigits_cons]
      omega

theorem le_maxWord64_iff {n : Nat} : n ≤ maxWord64 ↔ n < 2 ^ 64 := by
  have size : maxWord64 + 1 = 2 ^ 64 := rfl
  omega

theorem digits?_eq_some_iff {digits : List Char} {n : Nat} :
    digits? digits = some n ↔ digits ≠ [] ∧ (∀ c ∈ digits, c.isDigit = true) ∧
      n = Nat.ofDigits 10 (digits.reverse.map digitValue) := by
  rw [digits?, Option.ite_none_right_eq_some, List.all_eq_true, Option.some.injEq, digitsValue_eq_ofDigits, and_assoc,
    @eq_comm _ n]

theorem filter_digits?_eq_some_iff {digits : List Char} {n : Nat} :
    (digits? digits).filter (· ≤ maxWord64) = some n ↔ digits ≠ [] ∧ (∀ c ∈ digits, c.isDigit = true) ∧
      n = Nat.ofDigits 10 (digits.reverse.map digitValue) ∧ n < 2 ^ 64 := by
  rw [Option.filter_eq_some_iff, decide_eq_true_eq, digits?_eq_some_iff, le_maxWord64_iff, and_assoc, and_assoc]

theorem word64?_plus (cs : List Char) : word64? ('+' :: cs) = (digits? cs).filter (· ≤ maxWord64) := rfl

theorem word64?_of_unsigned {cs : List Char} (unsigned : cs.head? ≠ some '+') :
    word64? cs = (digits? cs).filter (· ≤ maxWord64) := by
  unfold word64?
  split
  · exact (unsigned rfl).elim
  · rfl

theorem word64?_eq_some_iff {cs : List Char} {n : Nat} : word64? cs = some n ↔ Denotes cs n := by
  constructor
  · intro read
    by_cases signed : cs.head? = some '+'
    · obtain ⟨rest, rfl⟩ := List.head?_eq_some_iff.1 signed
      rw [word64?_plus, filter_digits?_eq_some_iff] at read
      exact ⟨['+'], rest, rfl, .inr rfl, read⟩
    · rw [word64?_of_unsigned signed, filter_digits?_eq_some_iff] at read
      exact ⟨[], cs, rfl, .inl rfl, read⟩
  · rintro ⟨sign, digits, rfl, rfl | rfl, read⟩
    · have unsigned : digits.head? ≠ some '+' := by
        intro first
        have digit := read.2.1 '+' (List.mem_of_head? first)
        cases digit
      rw [List.nil_append, word64?_of_unsigned unsigned, filter_digits?_eq_some_iff]
      exact read
    · rw [List.singleton_append, word64?_plus, filter_digits?_eq_some_iff]
      exact read

section Ends

variable {cs : List Char} {n : Nat}

theorem lt_two_pow_of_denotes (count : Denotes cs n) : n < 2 ^ 64 := by
  obtain ⟨_, _, _, _, _, _, _, fits⟩ := count
  exact fits

theorem exists_last_digit (count : Denotes cs n) : ∃ front c, cs = front ++ [c] ∧ c.isDigit = true := by
  obtain ⟨sign, digits, rfl, -, nonempty, all, -⟩ := count
  obtain ⟨front, c, rfl⟩ := List.eq_nil_or_concat digits |>.resolve_left nonempty
  exact ⟨sign ++ front, c, by simp, all c (by simp)⟩

theorem ne_append_of_denotes (count : Denotes cs n) {c : Char} (alien : c.isDigit = false) (rest : List Char) :
    cs ≠ rest ++ [c] := by
  obtain ⟨front, digit, rfl, isDigit⟩ := exists_last_digit count
  intro same
  obtain ⟨-, last⟩ := List.append_inj' same rfl
  obtain rfl := List.cons.inj last |>.1
  rw [alien] at isDigit
  cases isDigit

theorem isBlank_of_isDigit {c : Char} (digit : c.isDigit = true) : isBlank c = false := by
  simp only [Char.isDigit, Bool.and_eq_true, decide_eq_true_eq, UInt32.le_iff_toNat_le, ge_iff_le] at digit
  change 48 ≤ c.toNat ∧ c.toNat ≤ 57 at digit
  simp only [isBlank, Bool.or_eq_false_iff, Bool.and_eq_false_iff, decide_eq_false_iff_not, beq_eq_false_iff_ne]
  omega

theorem first_of_denotes (count : Denotes cs n) : ∀ c ∈ cs.head?, isBlank c = false := by
  obtain ⟨sign, digits, rfl, rfl | rfl, -, all, -⟩ := count
  · intro c first
    exact isBlank_of_isDigit (all c (List.mem_of_head? first))
  · intro c first
    cases first
    decide

theorem last_of_denotes (count : Denotes cs n) : ∀ c ∈ cs.getLast?, isBlank c = false := by
  obtain ⟨front, digit, rfl, isDigit⟩ := exists_last_digit count
  simpa using isBlank_of_isDigit isDigit

theorem word64?_trim_eq_some_iff : word64? (trim cs) = some n ↔ ∃ before numeral after,
    cs = before ++ numeral ++ after ∧ (∀ c ∈ before, isBlank c = true) ∧ (∀ c ∈ after, isBlank c = true) ∧
      Denotes numeral n := by
  rw [word64?_eq_some_iff]
  constructor
  · intro count
    obtain ⟨before, after, split, start, finish⟩ := surrounded_trimWhile isBlank cs
    exact ⟨before, trim cs, after, split, start, finish, count⟩
  · rintro ⟨before, numeral, after, rfl, start, finish, count⟩
    rwa [trim, trimWhile_surrounded numeral start finish,
      trimWhile_eq_self (first_of_denotes count) (last_of_denotes count)]

end Ends

def addDigit? (n : UInt64) (c : Char) : Option UInt64 :=
  if 10 * n.toNat + digitValue c < UInt64.size then some (10 * n + UInt64.ofNat (digitValue c)) else none

theorem addDigit?_eq_some_iff {n m : UInt64} {c : Char} :
    addDigit? n c = some m ↔ m.toNat = 10 * n.toNat + digitValue c := by
  have below := m.toNat_lt
  rw [addDigit?, Option.ite_none_right_eq_some, Option.some.injEq, ← UInt64.toNat_inj]
  simp only [UInt64.size, UInt64.toNat_add, UInt64.toNat_mul, UInt64.toNat_ofNat, UInt64.toNat_ofNat']
  omega

theorem foldlM_addDigit? {digits : List Char} {m : UInt64} :
    digits.foldlM addDigit? 0 = some m ↔ m.toNat = digitsValue digits := by
  induction digits using List.reverseRecOn generalizing m with
  | nil =>
      rw [List.foldlM_nil, Option.pure_def, Option.some.injEq, ← UInt64.toNat_inj, eq_comm]
      rfl
  | append_singleton digits c ih =>
      have step : (digits ++ [c]).foldlM addDigit? 0 = (digits.foldlM addDigit? 0).bind (addDigit? · c) := by
        simp [List.foldlM_append]
      rw [step, Option.bind_eq_some_iff, digitsValue_append_singleton]
      simp only [ih, addDigit?_eq_some_iff]
      constructor
      · rintro ⟨n, value, eq⟩
        rw [eq, value]
      · intro eq
        have below := m.toNat_lt
        have fits : (UInt64.ofNat (digitsValue digits)).toNat = digitsValue digits :=
          UInt64.toNat_ofNat_of_lt' (by simp only [UInt64.size]; omega)
        exact ⟨UInt64.ofNat (digitsValue digits), fits, by rw [fits, eq]⟩

def inWords? (cs : List Char) : Option UInt64 :=
  let digits := if cs.head? = some '+' then cs.tail else cs
  if digits ≠ [] ∧ digits.all Char.isDigit then digits.foldlM addDigit? 0 else none

theorem filter_digits?_eq_foldlM (digits : List Char) :
    (digits? digits).filter (· ≤ maxWord64) =
      (if digits ≠ [] ∧ digits.all Char.isDigit then digits.foldlM addDigit? 0 else none).map UInt64.toNat := by
  unfold digits?
  split
  · ext n
    simp only [Option.filter_eq_some_iff, Option.some.injEq, decide_eq_true_eq, Option.map_eq_some_iff,
      foldlM_addDigit?, le_maxWord64_iff]
    constructor
    · rintro ⟨value, fits⟩
      refine ⟨UInt64.ofNat n, ?_, UInt64.toNat_ofNat_of_lt' fits⟩
      rw [value, UInt64.toNat_ofNat_of_lt' fits]
    · rintro ⟨m, value, rfl⟩
      exact ⟨value.symm, m.toNat_lt⟩
  · rfl

theorem word64?_eq_inWords? (cs : List Char) : word64? cs = (inWords? cs).map UInt64.toNat := by
  by_cases signed : cs.head? = some '+'
  · obtain ⟨rest, rfl⟩ := List.head?_eq_some_iff.1 signed
    exact filter_digits?_eq_foldlM rest
  · rw [word64?_of_unsigned signed, filter_digits?_eq_foldlM, inWords?, if_neg signed]

end Emplace.Text
