import Emplace.Proofs.Text.Numeral
import Emplace.Proofs.Toml.Strings

namespace Emplace.Toml

open Reader
open Text (toDigits_head_zero toDigits_cons digitsValue_toDigits toString_int toString_int_cons)

/-! ## Digits -/

variable {ds rest : List Char} {n : Nat}

theorem more_append (isDigit : Char → Bool) (digits : ∀ d ∈ ds, isDigit d = true) (underscore : isDigit '_' = false)
    (newline : isDigit '\n' = false) (bound : Nat) (enough : ds.length ≤ bound) :
    digitsWith.more isDigit bound (ds ++ '\n' :: rest) = some (ds, '\n' :: rest) := by
  induction ds generalizing bound with
  | nil => cases bound <;> simp [digitsWith.more, newline]
  | cons d ds ih =>
      obtain ⟨bound, rfl⟩ : ∃ n, bound = n + 1 := ⟨bound - 1, by simp only [List.length_cons] at enough; omega⟩
      have digit : isDigit d = true := digits d (List.mem_cons_self ..)
      have other : d ≠ '_' := by
        rintro rfl
        simp [underscore] at digit
      have later := ih (fun e member => digits e (List.mem_cons_of_mem d member)) bound (by simpa using enough)
      rw [List.cons_append]
      unfold digitsWith.more
      split <;> simp_all

theorem isDigit_of_mem (d : Char) (member : d ∈ Nat.toDigits 10 n) : d.isDigit = true :=
  Nat.isDigit_of_mem_toDigits (by decide) (by decide) member

theorem decimalDigits_toDigits :
    decimalDigits (Nat.toDigits 10 n ++ '\n' :: rest) = some (Nat.toDigits 10 n, '\n' :: rest) := by
  by_cases zero : n = 0
  · subst zero
    rfl
  obtain ⟨d, ds, eq, digit⟩ := toDigits_cons n
  have nonzero : d ≠ '0' := by
    rintro rfl
    exact zero (toDigits_head_zero (by rw [eq]; rfl))
  have digits : ∀ e ∈ ds, e.isDigit = true := by
    intro e member
    exact isDigit_of_mem (n := n) e (by simp [eq, member])
  have more : digitsWith.more Char.isDigit (ds ++ '\n' :: rest).length (ds ++ '\n' :: rest) = some (ds, '\n' :: rest) :=
    more_append Char.isDigit digits (by decide) (by decide) _ (by simp)
  rw [eq, List.cons_append]
  unfold decimalDigits
  split
  · simp_all
  · simp only [digitsWith, digit, if_true, more, Option.map_some]

/-! ## Integers -/

theorem decimal_of_sign {input : List Char} {negative : Bool} {z : Int}
    (signed : sign input = some (negative, Nat.toDigits 10 n ++ '\n' :: rest))
    (value : (if negative then -(n : Int) else n) = z) (low : -(integerLimit : Int) ≤ z) (high : z < integerLimit) :
    decimal input = some (.integer z, '\n' :: rest) := by
  have noFraction : fraction ('\n' :: rest) = some ([], '\n' :: rest) := rfl
  have noExponent : exponent ('\n' :: rest) = some (none, '\n' :: rest) := rfl
  simp only [decimal, bind_apply, signed, decimalDigits_toDigits, noFraction, noExponent, Option.bind_some,
    List.isEmpty_nil, Option.isNone_none, and_self, if_true, digitsValue_toDigits, value, low, high, pure_apply]

theorem fixedDigits_front {count value : Nat} {tail : List Char} (digits : ∀ d ∈ ds, d.isDigit = true)
    (read : fixedDigits count (ds ++ '\n' :: rest) = some (value, tail)) :
    ∃ c cs, tail = c :: cs ∧ (c.isDigit = true ∨ c = '\n') := by
  simp only [fixedDigits, Option.ite_none_right_eq_some, Option.some.injEq, Prod.mk.injEq] at read
  obtain ⟨⟨long, all⟩, -, rfl⟩ := read
  -- The end of the line is no digit, so the number ends within the digits.
  have within : count ≤ ds.length := by
    refine Nat.le_of_not_lt fun beyond => ?_
    have taken : '\n' ∈ (ds ++ '\n' :: rest).take count := by
      rw [List.take_append, List.mem_append]
      right
      obtain ⟨k, eq⟩ : ∃ k, count - ds.length = k + 1 := ⟨count - ds.length - 1, by omega⟩
      simp [eq]
    have := List.all_eq_true.1 all '\n' taken
    cases this
  rw [List.drop_append_of_le_length within]
  cases eq : ds.drop count with
  | nil => exact ⟨'\n', rest, rfl, .inr rfl⟩
  | cons d later =>
      have member : d ∈ ds := List.mem_of_mem_drop (by rw [eq]; exact List.mem_cons_self ..)
      exact ⟨d, later ++ '\n' :: rest, rfl, .inl (digits d member)⟩

theorem atDate_digits (digits : ∀ d ∈ ds, d.isDigit = true) : atDate (ds ++ '\n' :: rest) = false := by
  unfold atDate
  split
  · rename_i read
    obtain ⟨c, cs, eq, front⟩ := fixedDigits_front digits read
    cases eq
    simp at front
  · rfl

theorem fixedDigits_of_twoDigits {low high value : Nat} {input tail : List Char}
    (read : twoDigits low high input = some (value, tail)) : fixedDigits 2 input = some (value, tail) := by
  simp only [twoDigits, bind_apply, Option.bind_eq_some_iff] at read
  obtain ⟨⟨n, left⟩, taken, checked⟩ := read
  split at checked
  · cases checked
    exact taken
  · cases checked

theorem atTime_digits (digits : ∀ d ∈ ds, d.isDigit = true) : atTime (ds ++ '\n' :: rest) = false := by
  unfold atTime
  split
  · rename_i read
    obtain ⟨c, cs, eq, front⟩ := fixedDigits_front digits (fixedDigits_of_twoDigits read)
    cases eq
    simp at front
  · rfl

theorem numberOrMoment_toDigits (high : n < integerLimit) :
    numberOrMoment (Nat.toDigits 10 n ++ '\n' :: rest) = some (.integer n, '\n' :: rest) := by
  have unsigned : sign (Nat.toDigits 10 n ++ '\n' :: rest) = some (false, Nat.toDigits 10 n ++ '\n' :: rest) := by
    obtain ⟨d, ds, eq, digit⟩ := toDigits_cons n
    rw [eq, List.cons_append]
    unfold sign
    split <;> simp_all
  have read : decimal (Nat.toDigits 10 n ++ '\n' :: rest) = some (.integer n, '\n' :: rest) :=
    decimal_of_sign unsigned rfl (by omega) (by omega)
  -- A zero in front stands alone, so no letter of a base is behind it.
  have alone : ∀ c tail, Nat.toDigits 10 n ++ '\n' :: rest = '0' :: c :: tail → c = '\n' := by
    intro c tail eq
    have zero : n = 0 := by
      apply toDigits_head_zero
      obtain ⟨d, ds, digits, -⟩ := toDigits_cons n
      rw [digits] at eq ⊢
      exact congrArg some (List.cons.inj eq).1
    subst zero
    cases eq
    rfl
  simp only [numberOrMoment, atDate_digits isDigit_of_mem, atTime_digits isDigit_of_mem, Bool.or_self,
    Bool.false_eq_true, if_false]
  split
  · rename_i eq
    cases alone _ _ eq
  · rename_i eq
    cases alone _ _ eq
  · rename_i eq
    cases alone _ _ eq
  · simp only [orElse, read, Option.orElse_some]

theorem numberOrMoment_minus_toDigits (low : n ≤ integerLimit) :
    numberOrMoment ('-' :: (Nat.toDigits 10 n ++ '\n' :: rest)) = some (.integer (-n), '\n' :: rest) := by
  have signed : sign ('-' :: (Nat.toDigits 10 n ++ '\n' :: rest)) = some (true, Nat.toDigits 10 n ++ '\n' :: rest) := rfl
  have read : decimal ('-' :: (Nat.toDigits 10 n ++ '\n' :: rest)) = some (.integer (-n), '\n' :: rest) :=
    decimal_of_sign signed rfl (by omega) (by simp only [integerLimit]; omega)
  have notDate : atDate ('-' :: (Nat.toDigits 10 n ++ '\n' :: rest)) = false := by simp [atDate, fixedDigits]
  have notTime : atTime ('-' :: (Nat.toDigits 10 n ++ '\n' :: rest)) = false := by simp [atTime, twoDigits, fixedDigits]
  simp [numberOrMoment, notDate, notTime, orElse, read]

theorem numberOrMoment_toString {z : Int} (low : -(integerLimit : Int) ≤ z) (high : z < integerLimit) :
    numberOrMoment ((toString z).toList ++ '\n' :: rest) = some (.integer z, '\n' :: rest) := by
  rw [toString_int]
  split
  · rename_i sign
    obtain ⟨n, rfl⟩ := Int.eq_ofNat_of_zero_le sign
    exact numberOrMoment_toDigits (by omega)
  · rename_i sign
    obtain ⟨n, rfl⟩ : ∃ n : Nat, z = -(n : Int) := ⟨(-z).toNat, by omega⟩
    rw [Int.neg_neg, Int.toNat_natCast]
    exact numberOrMoment_minus_toDigits (by omega)

/-! ## Scalars -/

theorem text_cons (s : String) : ∃ quote tail, Printer.text s = quote :: tail ∧ (quote = '"' ∨ quote = '\'') := by
  simp only [Printer.text]
  split
  · exact ⟨_, _, rfl, .inl rfl⟩
  · exact ⟨_, _, rfl, .inr rfl⟩
  · exact ⟨_, _, rfl, .inl rfl⟩
  · exact ⟨_, _, rfl, .inr rfl⟩

theorem scalar_text (s : String) (behind : Unquoted rest) : scalar (Printer.text s ++ rest) = some (.text s, rest) := by
  have read := string_text s behind
  obtain ⟨quote, tail, eq, quotes⟩ := text_cons s
  rw [eq] at read ⊢
  rcases quotes with rfl | rfl <;> simp_all [scalar]

theorem value_text (depth : Nat) (s : String) (behind : Unquoted rest) :
    value depth (Printer.text s ++ rest) = some (.text s, rest) := by
  have read := scalar_text s behind
  cases depth with
  | zero => exact read
  | succ depth =>
      obtain ⟨quote, tail, eq, quotes⟩ := text_cons s
      rw [eq] at read ⊢
      rcases quotes with rfl | rfl <;> exact read

theorem value_integer (depth : Nat) {z : Int} (low : -(integerLimit : Int) ≤ z) (high : z < integerLimit) :
    value depth ((toString z).toList ++ '\n' :: rest) = some (.integer z, '\n' :: rest) := by
  obtain ⟨c, cs, eq, lead⟩ := toString_int_cons z
  have read : numberOrMoment ((toString z).toList ++ '\n' :: rest) = _ := numberOrMoment_toString low high
  rw [eq] at read ⊢
  have first : scalar (c :: cs ++ '\n' :: rest) = some (.integer z, '\n' :: rest) := by
    unfold scalar
    split <;> simp_all
  cases depth with
  | zero => exact first
  | succ depth =>
      unfold value
      split <;> simp_all

/-! ## Lists of texts -/

def Solid (rest : List Char) : Prop := ∃ c tail, rest = c :: tail ∧ c ∉ [' ', '\t', '\n', '\r', '#']

theorem solid_cons {c : Char} (other : c ∉ [' ', '\t', '\n', '\r', '#']) (tail : List Char) : Solid (c :: tail) :=
  ⟨c, tail, rfl, other⟩

theorem solid_text (s : String) (rest : List Char) : Solid (Printer.text s ++ rest) := by
  obtain ⟨quote, tail, eq, quotes⟩ := text_cons s
  refine ⟨quote, tail ++ rest, by rw [eq, List.cons_append], ?_⟩
  rcases quotes with rfl | rfl <;> decide

def Blank (blanks : List Char) : Prop := ∀ c ∈ blanks, c = ' ' ∨ c = '\n'

variable {blanks : List Char} {depth : Nat}

theorem blank_nil : Blank [] := fun _ member => absurd member List.not_mem_nil

theorem blank_newline : Blank ['\n'] := fun _ member => .inr (List.mem_singleton.1 member)

theorem skipFiller_blanks (blank : Blank blanks) (solid : Solid rest) :
    skipFiller (blanks ++ rest) = some ((), rest) := by
  apply Yields.iterate
  induction blanks with
  | nil =>
      obtain ⟨c, tail, rfl, other⟩ := solid
      simp only [List.mem_cons, List.not_mem_nil, or_false, not_or] at other
      obtain ⟨space, tab, feed, carriage, comment⟩ := other
      have ended : newline (c :: tail) = none := newline_of_head (by simpa using feed) (by simpa using carriage)
      exact .done (by simp [isSpace, space, tab, comment, ended])
  | cons c blanks ih =>
      have later := ih fun d member => blank d (List.mem_cons_of_mem c member)
      have single : c = ' ' ∨ c = '\n' := blank c (List.mem_cons_self ..)
      refine .next ?_ (by simp) later
      rcases single with rfl | rfl <;> rfl

theorem skipFiller_solid (solid : Solid rest) : skipFiller rest = some ((), rest) :=
  skipFiller_blanks blank_nil solid

theorem listStep_close (element : Reader Value) (read : List Value) (blank : Blank blanks) :
    listStep element read (blanks ++ ']' :: rest) = some (.inr (.list read.reverse), rest) := by
  have skipped := skipFiller_blanks blank (solid_cons (by decide) rest : Solid (']' :: rest))
  simp [listStep, skipped]

theorem listStep_text (depth : Nat) (read : List Value) (s : String) (rest : List Char) (blank : Blank blanks) {c : Char}
    (stop : c = ',' ∨ c = ']') :
    listStep (value depth) read (blanks ++ (Printer.text s ++ c :: rest)) =
      some (if c = ',' then .inl (.text s :: read) else .inr (.list (.text s :: read).reverse), rest) := by
  have unquoted : Unquoted (c :: rest) := by rcases stop with rfl | rfl <;> exact unquoted_cons (by decide) (by decide) rest
  have solid : Solid (c :: rest) := by rcases stop with rfl | rfl <;> exact solid_cons (by decide) rest
  have skipped := skipFiller_blanks blank (solid_text s (c :: rest))
  have item := value_text depth s unquoted
  have stopped := skipFiller_solid solid
  obtain ⟨quote, tail, eq, quotes⟩ := text_cons s
  rw [eq, List.cons_append] at skipped item ⊢
  have open? : quote ≠ ']' := by rcases quotes with rfl | rfl <;> decide
  simp only [listStep, bind_apply, skipped, Option.bind_some]
  rcases stop with rfl | rfl <;> simp [open?, item, stopped]

def indentedLine (s : String) : List Char := List.replicate 4 ' ' ++ Printer.text s ++ [',', '\n']

theorem yields_items (items : List String) (blank : Blank blanks) (read : List Value) :
    Yields (listStep (value depth)) read
      (blanks ++ (items.flatMap indentedLine ++ ']' :: rest))
      (.list (read.reverse ++ items.map .text)) rest := by
  induction items generalizing blanks read with
  | nil =>
      rw [List.flatMap_nil, List.nil_append, List.map_nil, List.append_nil]
      exact .done (listStep_close _ read blank)
  | cons s items ih =>
      have indented : Blank (blanks ++ List.replicate 4 ' ') := by
        intro c member
        rcases List.mem_append.1 member with inside | inside
        · exact blank c inside
        · exact .inl (List.eq_of_mem_replicate inside)
      have later := ih blank_newline (.text s :: read)
      have first := listStep_text depth read s (['\n'] ++ (items.flatMap indentedLine ++ ']' :: rest)) indented (.inl rfl)
      have front : blanks ++ ((s :: items).flatMap indentedLine ++ ']' :: rest) =
          blanks ++ List.replicate 4 ' ' ++
            (Printer.text s ++ ',' :: (['\n'] ++ (items.flatMap indentedLine ++ ']' :: rest))) := by
        simp [indentedLine]
      rw [front]
      refine .next first ?_ ?_
      · simp only [List.length_append, List.length_cons]
        omega
      · simpa using later

theorem value_texts (items : List String) :
    value (depth + 1) (Printer.texts items ++ rest) = some (.list (items.map .text), rest) := by
  match items with
  | [] => exact (Yields.done (listStep_close _ [] blank_nil)).iterate
  | [s] =>
      have last := Yields.done (listStep_text depth [] s rest blank_nil (.inr rfl))
      simpa [Printer.texts, value] using last.iterate
  | s :: t :: items =>
      have layout : Printer.texts (s :: t :: items) ++ rest =
          '[' :: (['\n'] ++ ((s :: t :: items).flatMap indentedLine ++ ']' :: rest)) := by
        show ['[', '\n'] ++ (s :: t :: items).flatMap indentedLine ++ [']'] ++ rest = _
        simp
      rw [layout]
      exact (yields_items (s :: t :: items) blank_newline []).iterate

/-! ## Items -/

def Item.value : Item → Value
  | .text s => .text s
  | .integer n => .integer n
  | .texts items => .list (items.map .text)

def Item.Fits : Item → Prop
  | .integer n => -(integerLimit : Int) ≤ n ∧ n < integerLimit
  | .text _ | .texts _ => True

theorem value_item (depth : Nat) {item : Item} (fits : item.Fits) (rest : List Char) :
    value (depth + 1) (Printer.item item ++ '\n' :: rest) = some (item.value, '\n' :: rest) := by
  cases item with
  | text s => exact value_text (depth + 1) s (unquoted_cons (by decide) (by decide) rest)
  | integer n => exact value_integer (depth + 1) fits.1 fits.2
  | texts items => exact value_texts items

end Emplace.Toml
