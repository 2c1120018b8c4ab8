import Emplace.Text.Blank
import Mathlib.Data.List.TakeWhile

namespace Emplace.Text

variable {α : Type} {p : α → Bool} {xs : List α}

theorem dropEndWhile_append (xs : List α) {ys : List α} (run : ∀ y ∈ ys, p y = true) :
    dropEndWhile p (xs ++ ys) = dropEndWhile p xs := by
  have reversed : ∀ y ∈ ys.reverse, p y = true := fun y member => run y (List.mem_reverse.1 member)
  rw [dropEndWhile, List.reverse_append, List.dropWhile_append_of_pos reversed, dropEndWhile]

theorem trimWhile_surrounded {before after : List α} (xs : List α) (start : ∀ x ∈ before, p x = true)
    (finish : ∀ x ∈ after, p x = true) : trimWhile p (before ++ xs ++ after) = trimWhile p xs := by
  rw [trimWhile, trimWhile, List.append_assoc, List.dropWhile_append_of_pos start, List.dropWhile_append]
  split
  · rename_i all
    rw [List.isEmpty_iff.1 all, List.dropWhile_eq_nil_iff.2 finish]
  · exact dropEndWhile_append _ finish

theorem trimWhile_eq_nil_iff : trimWhile p xs = [] ↔ ∀ x ∈ xs, p x = true := by
  rw [trimWhile, dropEndWhile, List.reverse_eq_nil_iff, List.dropWhile_eq_nil_iff]
  constructor
  · intro rest x member
    by_contra solid
    have stays : xs.dropWhile p ≠ [] := fun dropped => solid (List.dropWhile_eq_nil_iff.1 dropped x member)
    have first := List.head_dropWhile_not p stays
    rw [rest _ (List.mem_reverse.2 (List.head_mem stays))] at first
    cases first
  · intro all
    rw [List.dropWhile_eq_nil_iff.2 all]
    exact fun x none => (List.not_mem_nil none).elim

theorem surrounded_trimWhile (p : α → Bool) (xs : List α) :
    ∃ before after, xs = before ++ trimWhile p xs ++ after ∧ (∀ x ∈ before, p x = true) ∧
      ∀ x ∈ after, p x = true := by
  have all (ys : List α) : ∀ x ∈ ys.takeWhile p, p x = true := List.all_eq_true.1 List.all_takeWhile
  have back : xs.dropWhile p =
      trimWhile p xs ++ ((xs.dropWhile p).reverse.takeWhile p).reverse := by
    rw [trimWhile, dropEndWhile, ← List.reverse_append, List.takeWhile_append_dropWhile, List.reverse_reverse]
  refine ⟨xs.takeWhile p, ((xs.dropWhile p).reverse.takeWhile p).reverse, ?_, all xs, ?_⟩
  · rw [List.append_assoc, ← back, List.takeWhile_append_dropWhile]
  · intro x member
    exact all _ x (List.mem_reverse.1 member)

theorem dropWhile_of_head (solid : ∀ x ∈ xs.head?, p x = false) : xs.dropWhile p = xs := by
  cases xs with
  | nil => rfl
  | cons x xs => simp [solid x rfl]

theorem trimWhile_eq_self (first : ∀ x ∈ xs.head?, p x = false) (last : ∀ x ∈ xs.getLast?, p x = false) :
    trimWhile p xs = xs := by
  have reversed : ∀ x ∈ xs.reverse.head?, p x = false := by rwa [List.head?_reverse]
  rw [trimWhile, dropEndWhile, dropWhile_of_head first, dropWhile_of_head reversed, List.reverse_reverse]

theorem stripEnd?_eq_some_iff [BEq α] [LawfulBEq α] {tail xs rest : List α} :
    stripEnd? tail xs = some rest ↔ xs = rest ++ tail := by
  rw [stripEnd?]
  constructor
  · intro stripped
    split at stripped
    · rename_i ends
      obtain ⟨front, rfl⟩ := List.isSuffixOf_iff_suffix.1 ends
      rw [List.length_append, Nat.add_sub_cancel, List.take_left, Option.some.injEq] at stripped
      rw [stripped]
    · cases stripped
  · rintro rfl
    rw [if_pos (List.isSuffixOf_iff_suffix.2 (List.suffix_append rest tail)), List.length_append,
      Nat.add_sub_cancel, List.take_left]

theorem stripEnd?_eq_none_iff [BEq α] [LawfulBEq α] {tail xs : List α} :
    stripEnd? tail xs = none ↔ ∀ rest, xs ≠ rest ++ tail := by
  simp only [Option.eq_none_iff_forall_not_mem, Option.mem_def, stripEnd?_eq_some_iff, ne_eq]

theorem occursIn_eq_true_iff [BEq α] [LawfulBEq α] {part : List α} : occursIn part xs = true ↔ part <:+: xs := by
  induction xs with
  | nil => rw [occursIn, List.isEmpty_iff, List.infix_nil]
  | cons x xs ih => rw [occursIn, Bool.or_eq_true, List.isPrefixOf_iff_prefix, ih, List.infix_cons_iff]

end Emplace.Text
