import Emplace.Text.Utf8

namespace Emplace.Text

def characters (cs : List Char) : List Symbol := cs.map Symbol.char

@[simp] theorem characters_nil : characters [] = [] := rfl

@[simp] theorem characters_cons (c : Char) (cs : List Char) : characters (c :: cs) = .char c :: characters cs := rfl

@[simp] theorem characters_append (cs ds : List Char) : characters (cs ++ ds) = characters cs ++ characters ds :=
  List.map_append

@[simp] theorem length_characters (cs : List Char) : (characters cs).length = cs.length := List.length_map _

theorem toNat_ofNat_of_lt {n : Nat} (byte : n < 256) : (UInt8.ofNat n).toNat = n := by
  simpa using Nat.mod_eq_of_lt byte

theorem isTail_ofNat {n : Nat} (small : n < 64) : isTail (UInt8.ofNat (0x80 + n)) = true := by
  rw [isTail, toNat_ofNat_of_lt (by omega)]
  simp
  omega

theorem tailBits_ofNat {n : Nat} (small : n < 64) : tailBits (UInt8.ofNat (0x80 + n)) = n := by
  have byte := toNat_ofNat_of_lt (show 0x80 + n < 256 by omega)
  unfold tailBits
  omega

theorem isSecond_ofNat {a n : Nat} (lead : a < 256) (small : n < 64)
    (low : (secondRange a).1 ≤ 0x80 + n) (high : 0x80 + n ≤ (secondRange a).2) :
    isSecond (UInt8.ofNat a) (UInt8.ofNat (0x80 + n)) = true := by
  have second : 0x80 + n < 256 := by omega
  simp only [isSecond, toNat_ofNat_of_lt lead, toNat_ofNat_of_lt second, low, high, decide_true, Bool.and_self]

theorem valid_toNat (c : Char) : c.toNat < 0xD800 ∨ (0xDFFF < c.toNat ∧ c.toNat < 0x110000) := c.valid

theorem front_encodeChar_append (c : Char) (rest : Bytes) :
    front (encodeChar c ++ rest) = (some c, (encodeChar c).length) := by
  have valid := valid_toNat c
  have back : ∀ n, n = c.toNat → Char.ofNat n = c := fun n same => same ▸ Char.ofNat_toNat c
  simp only [encodeChar]
  split
  · rename_i one
    simp only [List.cons_append, List.nil_append, front, toNat_ofNat_of_lt (show c.toNat < 256 by omega), one,
      if_true, back c.toNat rfl, List.length_cons, List.length_nil]
  split
  · rename_i more two
    have lead : 0xC0 + c.toNat / 64 < 256 := by omega
    have tail : c.toNat % 64 < 64 := by omega
    simp only [List.cons_append, List.nil_append, front, toNat_ofNat_of_lt lead, isTail_ofNat tail, tailBits_ofNat tail,
      if_true, List.length_cons, List.length_nil]
    rw [if_neg (by omega), if_pos (by omega), back _ (by omega)]
  split
  · rename_i more three
    have lead : 0xE0 + c.toNat / 4096 < 256 := by omega
    have second : c.toNat / 64 % 64 < 64 := by omega
    have third : c.toNat % 64 < 64 := by omega
    have range : isSecond (UInt8.ofNat (0xE0 + c.toNat / 4096)) (UInt8.ofNat (0x80 + c.toNat / 64 % 64)) = true := by
      apply isSecond_ofNat lead second <;> unfold secondRange <;> repeat' split
      all_goals simp only
      all_goals omega
    simp only [List.cons_append, List.nil_append, front, toNat_ofNat_of_lt lead, range, isTail_ofNat third,
      tailBits_ofNat second, tailBits_ofNat third, if_true, List.length_cons, List.length_nil]
    rw [if_neg (by omega), if_neg (by omega), if_pos (by omega), back _ (by omega)]
  · rename_i more
    have lead : 0xF0 + c.toNat / 262144 < 256 := by omega
    have second : c.toNat / 4096 % 64 < 64 := by omega
    have third : c.toNat / 64 % 64 < 64 := by omega
    have fourth : c.toNat % 64 < 64 := by omega
    have range :
        isSecond (UInt8.ofNat (0xF0 + c.toNat / 262144)) (UInt8.ofNat (0x80 + c.toNat / 4096 % 64)) = true := by
      apply isSecond_ofNat lead second <;> unfold secondRange <;> repeat' split
      all_goals simp only
      all_goals omega
    simp only [List.cons_append, List.nil_append, front, toNat_ofNat_of_lt lead, range, isTail_ofNat third,
      isTail_ofNat fourth, tailBits_ofNat second, tailBits_ofNat third, tailBits_ofNat fourth, if_true,
      List.length_cons, List.length_nil]
    rw [if_neg (by omega), if_neg (by omega), if_neg (by omega), if_pos (by omega), back _ (by omega)]

theorem encodeChar_ne_nil (c : Char) : encodeChar c ≠ [] := by
  simp only [encodeChar]
  repeat' split
  all_goals simp

theorem symbols_encodeChar_append (c : Char) (rest : Bytes) :
    symbols (encodeChar c ++ rest) = .char c :: symbols rest := by
  obtain ⟨a, tail, eq⟩ := List.exists_cons_of_ne_nil (encodeChar_ne_nil c)
  have read := front_encodeChar_append c rest
  rw [eq, List.cons_append] at read ⊢
  rw [symbols, read]
  simp

theorem symbols_encode (cs : List Char) : symbols (encode cs) = characters cs := by
  induction cs with
  | nil => simp [encode, symbols]
  | cons c cs ih =>
      have step := symbols_encodeChar_append c (encode cs)
      rw [ih] at step
      simpa [encode] using step

theorem encode_eq_nil_iff (cs : List Char) : encode cs = [] ↔ cs = [] := by
  cases cs <;> simp [encode, encodeChar_ne_nil]

theorem mapM_char?_characters (cs : List Char) : (characters cs).mapM Symbol.char? = some cs := by
  induction cs with
  | nil => rfl
  | cons c cs ih => simp [Symbol.char?, ih]

theorem decode?_encode (cs : List Char) : decode? (encode cs) = some cs := by
  rw [decode?, symbols_encode, mapM_char?_characters]

theorem ofNat_lt_ofNat {m n : Nat} (left : m < 256) (right : n < 256) : UInt8.ofNat m < UInt8.ofNat n ↔ m < n := by
  rw [UInt8.lt_iff_toNat_lt, toNat_ofNat_of_lt left, toNat_ofNat_of_lt right]

theorem ofNat_eq_ofNat {m n : Nat} (left : m < 256) (right : n < 256) : UInt8.ofNat m = UInt8.ofNat n ↔ m = n := by
  rw [← UInt8.toNat_inj, toNat_ofNat_of_lt left, toNat_ofNat_of_lt right]

theorem encodeChar_append_lt {c d : Char} (lt : c < d) (r s : Bytes) : encodeChar c ++ r < encodeChar d ++ s := by
  have smaller : c.toNat < d.toNat := lt
  have left := valid_toNat c
  have right := valid_toNat d
  generalize code : c.toNat = m at *
  generalize code' : d.toNat = n at *
  simp only [encodeChar, code, code']
  -- One case for each pair of widths: the lead bytes of wider characters are greater.
  repeat' split
  all_goals
    simp (disch := omega) only [List.cons_append, List.nil_append, List.cons_lt_cons_iff, ofNat_lt_ofNat,
      ofNat_eq_ofNat]
    generalize (r < s) = later
    omega

theorem encode_lt_encode {cs ds : List Char} (lt : cs < ds) : encode cs < encode ds := by
  induction cs generalizing ds with
  | nil =>
      cases ds with
      | nil => exact absurd lt (List.lt_irrefl _)
      | cons d ds =>
          obtain ⟨b, bytes, eq⟩ := List.exists_cons_of_ne_nil (encodeChar_ne_nil d)
          simp [encode, eq]
  | cons c cs ih =>
      cases ds with
      | nil => exact absurd lt (List.not_lt_nil _)
      | cons d ds =>
          rcases List.cons_lt_cons_iff.1 lt with first | ⟨rfl, later⟩
          · exact encodeChar_append_lt first (encode cs) (encode ds)
          · exact List.append_left_lt (ih later)

theorem bytesOf_lt_bytesOf {s t : String} (lt : s < t) : bytesOf s < bytesOf t := encode_lt_encode lt

variable {a b c d : UInt8}

theorem toNat_ofNat_of_valid {n : Nat} (valid : n < 0xD800 ∨ (0xDFFF < n ∧ n < 0x110000)) :
    (Char.ofNat n).toNat = n := by
  have isValid : n.isValidChar := valid
  rw [Char.ofNat, dif_pos isValid]
  rfl

theorem ofNat_of_eq_toNat {n : Nat} (same : n = a.toNat) : UInt8.ofNat n = a := by
  rw [same, UInt8.ofNat_toNat]

theorem isTail_iff : isTail b = true ↔ 0x80 ≤ b.toNat ∧ b.toNat ≤ 0xBF := by
  simp [isTail]

theorem range_of_isSecond (second : isSecond a b = true) :
    (0x80 ≤ b.toNat ∧ b.toNat ≤ 0xBF) ∧ (a.toNat = 0xE0 → 0xA0 ≤ b.toNat) ∧ (a.toNat = 0xED → b.toNat ≤ 0x9F) ∧
      (a.toNat = 0xF0 → 0x90 ≤ b.toNat) ∧ (a.toNat = 0xF4 → b.toNat ≤ 0x8F) := by
  rw [isSecond, Bool.and_eq_true, decide_eq_true_iff, decide_eq_true_iff, secondRange] at second
  revert second
  repeat' split
  all_goals simp only
  all_goals omega

theorem encodeChar_one (lead : a.toNat < 0x80) : encodeChar (Char.ofNat a.toNat) = [a] := by
  rw [encodeChar, toNat_ofNat_of_valid (by omega), if_pos lead, UInt8.ofNat_toNat]

theorem encodeChar_two (lead : 0xC2 ≤ a.toNat ∧ a.toNat ≤ 0xDF) (tail : isTail b = true) :
    encodeChar (Char.ofNat ((a.toNat - 0xC0) * 64 + tailBits b)) = [a, b] := by
  rw [isTail_iff] at tail
  unfold encodeChar tailBits
  simp only
  rw [toNat_ofNat_of_valid (by omega), if_neg (by omega), if_pos (by omega), ofNat_of_eq_toNat (a := a) (by omega),
    ofNat_of_eq_toNat (a := b) (by omega)]

theorem encodeChar_three (lead : 0xE0 ≤ a.toNat ∧ a.toNat ≤ 0xEF) (second : isSecond a b = true)
    (tail : isTail c = true) :
    encodeChar (Char.ofNat ((a.toNat - 0xE0) * 4096 + tailBits b * 64 + tailBits c)) = [a, b, c] := by
  rw [isTail_iff] at tail
  have range := range_of_isSecond second
  unfold encodeChar tailBits
  simp only
  rw [toNat_ofNat_of_valid (by omega), if_neg (by omega), if_neg (by omega), if_pos (by omega),
    ofNat_of_eq_toNat (a := a) (by omega), ofNat_of_eq_toNat (a := b) (by omega), ofNat_of_eq_toNat (a := c) (by omega)]

theorem encodeChar_four (lead : 0xF0 ≤ a.toNat ∧ a.toNat ≤ 0xF4) (second : isSecond a b = true)
    (tail : isTail c = true) (tail' : isTail d = true) :
    encodeChar (Char.ofNat ((a.toNat - 0xF0) * 262144 + tailBits b * 4096 + tailBits c * 64 + tailBits d)) =
      [a, b, c, d] := by
  rw [isTail_iff] at tail tail'
  have range := range_of_isSecond second
  unfold encodeChar tailBits
  simp only
  rw [toNat_ofNat_of_valid (by omega), if_neg (by omega), if_neg (by omega), if_neg (by omega),
    ofNat_of_eq_toNat (a := a) (by omega), ofNat_of_eq_toNat (a := b) (by omega), ofNat_of_eq_toNat (a := c) (by omega),
    ofNat_of_eq_toNat (a := d) (by omega)]

theorem eq_encodeChar_append {bytes : Bytes} {shown : Char} {width : Nat} (read : front bytes = (some shown, width)) :
    bytes = encodeChar shown ++ bytes.drop width ∧ 0 < width := by
  unfold front at read
  simp only at read
  repeat' split at read
  all_goals simp only [Prod.mk.injEq, Option.some.injEq, reduceCtorEq, false_and] at read
  all_goals obtain ⟨rfl, rfl⟩ := read
  · rename_i lead
    rw [encodeChar_one lead]
    exact ⟨rfl, by decide⟩
  · rename_i lead _ _ _ tail
    rw [encodeChar_two lead tail]
    exact ⟨rfl, by decide⟩
  · rename_i lead _ _ _ _ second tail
    rw [encodeChar_three lead second tail]
    exact ⟨rfl, by decide⟩
  · rename_i lead _ _ _ _ _ second tail tail'
    rw [encodeChar_four lead second tail tail']
    exact ⟨rfl, by decide⟩

theorem encode_of_decode? {bytes : Bytes} {cs : List Char} (read : decode? bytes = some cs) : bytes = encode cs := by
  unfold decode? at read
  fun_induction symbols bytes generalizing cs with
  | case1 =>
      cases read
      rfl
  | case2 first rest c width shown ih =>
      rw [List.mapM_cons] at read
      obtain ⟨cs', read', rfl⟩ :
          ∃ cs', (symbols (rest.drop (width - 1))).mapM Symbol.char? = some cs' ∧ c :: cs' = cs := by
        simpa [Symbol.char?, Option.bind_eq_some_iff] using read
      obtain ⟨split, wide⟩ := eq_encodeChar_append shown
      obtain ⟨width, rfl⟩ := Nat.exists_eq_add_one.2 wide
      rw [split, List.drop_succ_cons, encode, List.flatMap_cons, ← encode, ← ih read', Nat.add_sub_cancel]
  | case3 first rest width shown ih => cases read

theorem decode?_eq_some_iff {bytes : Bytes} {cs : List Char} : decode? bytes = some cs ↔ bytes = encode cs := by
  constructor
  · exact encode_of_decode?
  · rintro rfl
    exact decode?_encode cs

end Emplace.Text
