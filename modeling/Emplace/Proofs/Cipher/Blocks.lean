import Emplace.Cipher.Gcm

namespace Emplace

namespace Sha256

variable {α : Type}

theorem length_bytesOfNat (count n : Nat) : (bytesOfNat count n).length = count := by
  simp [bytesOfNat]

theorem flatten_pieces (size bound : Nat) (xs : List α) (enough : xs.length ≤ size * bound) :
    (pieces size bound xs).flatten = xs := by
  induction bound generalizing xs with
  | zero =>
      have empty : xs = [] := List.eq_nil_of_length_eq_zero (by omega)
      simp [pieces, empty]
  | succ bound ih =>
      unfold pieces
      split
      · simp_all
      · rw [List.flatten_cons, ih _ (by rw [List.length_drop, Nat.mul_succ] at *; omega), List.take_append_drop]

theorem length_of_mem_pieces {size bound : Nat} {xs : List α} (whole : xs.length = size * bound) :
    ∀ piece ∈ pieces size bound xs, piece.length = size := by
  induction bound generalizing xs with
  | zero =>
      intro piece inside
      cases inside
  | succ bound ih =>
      rw [Nat.mul_succ] at whole
      intro piece inside
      unfold pieces at inside
      split at inside
      · cases inside
      · rcases List.mem_cons.1 inside with rfl | later
        · rw [List.length_take]
          omega
        · exact ih (by rw [List.length_drop]; omega) piece later

theorem length_pieces {size bound : Nat} {xs : List α} (positive : 0 < size) (whole : xs.length = size * bound) :
    (pieces size bound xs).length = bound := by
  induction bound generalizing xs with
  | zero => rfl
  | succ bound ih =>
      rw [Nat.mul_succ] at whole
      have nonempty : xs.isEmpty = false := by
        cases xs with
        | nil => simp at whole; omega
        | cons x xs => rfl
      simp only [pieces, nonempty, Bool.false_eq_true, if_false, List.length_cons]
      rw [ih (by rw [List.length_drop]; omega)]

end Sha256

namespace Aes256

open Sha256 (pieces)

theorem length_xor (xs ys : Bytes) : (xor xs ys).length = min xs.length ys.length := by
  simp [xor]

theorem xor_xor_cancel {text stream : Bytes} (enough : text.length ≤ stream.length) :
    xor (xor text stream) stream = text := by
  induction text generalizing stream with
  | nil => rfl
  | cons b text ih =>
      cases stream with
      | nil => simp at enough
      | cons k stream =>
          have rest := ih (by simpa using enough)
          simp only [xor, List.zipWith_cons_cons] at rest ⊢
          rw [rest, UInt8.xor_assoc, UInt8.xor_self, UInt8.xor_zero]

def Schedule.Whole (s : Schedule) : Prop := 8 ≤ s.words.length ∧ ∀ word ∈ s.words, word.length = 4

theorem Schedule.Whole.length_getD {s : Schedule} (whole : s.Whole) {i : Nat} (recent : i < 8) :
    (s.words.getD i []).length = 4 := by
  have inside : i < s.words.length := Nat.lt_of_lt_of_le recent whole.1
  rw [List.getD_eq_getElem?_getD, List.getElem?_eq_getElem inside]
  exact whole.2 _ (List.getElem_mem inside)

theorem Schedule.Whole.extend {s : Schedule} (whole : s.Whole) (index : Nat) : (s.extend index).Whole := by
  have latest := whole.length_getD (i := 0) (by omega)
  have eighth := whole.length_getD (i := 7) (by omega)
  have longer (word : Bytes) (four : word.length = 4) (constant : UInt8) :
      (Schedule.mk (word :: s.words) constant).Whole := by
    refine ⟨Nat.le_succ_of_le whole.1, fun w inside => ?_⟩
    rcases List.mem_cons.1 inside with rfl | later
    · exact four
    · exact whole.2 w later
  unfold Schedule.extend
  split
  · refine longer _ ?_ _
    simp only [length_xor, List.length_map, List.length_append, List.length_drop, List.length_take, latest, eighth]
    rfl
  split
  · exact longer _ (by rw [length_xor, List.length_map, latest, eighth, Nat.min_self]) _
  · exact longer _ (by rw [length_xor, latest, eighth, Nat.min_self]) _

theorem length_words_foldl_extend (indices : List Nat) (s : Schedule) :
    (indices.foldl (fun s i => s.extend (i + 8)) s).words.length = s.words.length + indices.length := by
  induction indices generalizing s with
  | nil => rfl
  | cons i indices ih =>
      have one : (s.extend (i + 8)).words.length = s.words.length + 1 := by
        unfold Schedule.extend
        repeat' split
        all_goals rfl
      rw [List.foldl_cons, ih, one, List.length_cons]
      omega

theorem whole_foldl_extend (indices : List Nat) {s : Schedule} (whole : s.Whole) :
    (indices.foldl (fun s i => s.extend (i + 8)) s).Whole := by
  induction indices generalizing s with
  | nil => exact whole
  | cons i indices ih => exact ih (whole.extend (i + 8))

theorem length_flatten_words {words : List Bytes} (four : ∀ word ∈ words, word.length = 4) :
    words.flatten.length = 4 * words.length := by
  induction words with
  | nil => rfl
  | cons word words ih =>
      have later := ih fun w inside => four w (List.mem_cons_of_mem _ inside)
      have first := four word List.mem_cons_self
      rw [List.flatten_cons, List.length_append, List.length_cons]
      omega

theorem length_of_mem_roundKeys (key : Key) : ∀ k ∈ roundKeys key.bytes, k.length = 16 := by
  -- Eight words of the key and 52 more make 15 keys of four words each.
  have eight : (Schedule.mk (pieces 4 8 key.bytes).reverse 1).words.length = 8 := by
    rw [List.length_reverse, Sha256.length_pieces (by omega) (by rw [key.length_bytes])]
  have start : (Schedule.mk (pieces 4 8 key.bytes).reverse 1).Whole :=
    ⟨Nat.le_of_eq eight.symm, fun word inside =>
      Sha256.length_of_mem_pieces (by rw [key.length_bytes]) word (List.mem_reverse.1 inside)⟩
  have whole := whole_foldl_extend (List.range 52) start
  have sixty := length_words_foldl_extend (List.range 52) (Schedule.mk (pieces 4 8 key.bytes).reverse 1)
  rw [eight, List.length_range] at sixty
  intro k inside
  obtain ⟨words, group, rfl⟩ := List.mem_map.1 inside
  have four := Sha256.length_of_mem_pieces (by rw [List.length_reverse, sixty]) words group
  rw [length_flatten_words fun word member => ?_, four]
  apply whole.2
  have all := Sha256.flatten_pieces 4 15 _ (Nat.le_of_eq (by rw [List.length_reverse, sixty]))
  exact List.mem_reverse.1 (all ▸ List.mem_flatten.2 ⟨words, group, member⟩)

theorem length_shiftRows (block : Bytes) : (shiftRows block).length = 16 := by
  simp [shiftRows]

theorem length_mixColumn (column : Bytes) : (mixColumn column).length = column.length := by
  unfold mixColumn
  split <;> rfl

theorem length_mixColumns {block : Bytes} (sixteen : block.length = 16) : (mixColumns block).length = 16 := by
  have all := congrArg List.length (Sha256.flatten_pieces 4 4 block (by omega))
  rw [List.length_flatten] at all
  simpa [mixColumns, List.length_flatMap, length_mixColumn, sixteen] using all

theorem length_rounds {keys : List Bytes} (whole : ∀ k ∈ keys, k.length = 16) {block : Bytes}
    (sixteen : block.length = 16) : (rounds keys block).length = 16 := by
  induction keys generalizing block with
  | nil => exact sixteen
  | cons key keys ih =>
      have first := whole key List.mem_cons_self
      cases keys with
      | nil => simp [rounds, length_xor, length_shiftRows, first]
      | cons next keys =>
          refine ih (fun k inside => whole k (List.mem_cons_of_mem _ inside)) ?_
          rw [length_xor, length_mixColumns (length_shiftRows _), first, Nat.min_self]

theorem length_encryptWith {keys : List Bytes} (whole : ∀ k ∈ keys, k.length = 16) {block : Bytes}
    (sixteen : block.length = 16) : (encryptWith keys block).length = 16 := by
  cases keys with
  | nil => exact sixteen
  | cons first rest =>
      refine length_rounds (fun k inside => whole k (List.mem_cons_of_mem _ inside)) ?_
      rw [length_xor, sixteen, whole first List.mem_cons_self, Nat.min_self]

end Aes256

end Emplace
