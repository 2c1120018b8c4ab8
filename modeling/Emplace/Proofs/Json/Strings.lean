import Emplace.Json.Reader
import Emplace.Json.Text
import Emplace.Proofs.Text.Utf8

/-!
# JSON strings read back

Every string survives escaping and reading (`stringBody_stringText`), whatever follows its closing quote. The
reader goes through the text one escaped character at a time, so the loop is opened by `iterateWithin_inl`
and `iterateWithin_inr` and the induction is on the characters of the string.
-/

namespace Emplace.Json

open Text (Symbol characters characters_nil characters_cons characters_append length_characters mapM_char?_characters)

namespace Reader

variable {α β σ : Type}

@[simp] theorem bind_apply (first : Reader α) (next : α → Reader β) (input : List Symbol) :
    (first >>= next) input = match first input with
      | .error fault => .error fault
      | .ok (a, rest) => next a rest := rfl

@[simp] theorem pure_apply (a : α) (input : List Symbol) : (pure a : Reader α) input = .ok (a, input) := rfl

theorem map_ok {reader : Reader α} {input rest : List Symbol} {a : α} (f : α → β)
    (read : reader input = .ok (a, rest)) : reader.map f input = .ok (f a, rest) := by
  simp only [map, andThen, read, yield]

theorem iterateWithin_inl {step : σ → Reader (σ ⊕ α)} {state next : σ} {input rest : List Symbol}
    (read : step state input = .ok (.inl next, rest)) (bound : Nat) :
    iterateWithin step (bound + 1) state input = iterateWithin step bound next rest := by
  simp only [iterateWithin, read]

theorem iterateWithin_inr {step : σ → Reader (σ ⊕ α)} {state : σ} {input rest : List Symbol} {a : α}
    (read : step state input = .ok (.inr a, rest)) (bound : Nat) :
    iterateWithin step (bound + 1) state input = .ok (a, rest) := by
  simp only [iterateWithin, read]

theorem hexValue?_hexDigit {n : Nat} (digit : n < 16) : Text.hexValue? (Text.hexDigit n) = some n := by
  have all : ∀ n < 16, Text.hexValue? (Text.hexDigit n) = some n := by decide
  exact all n digit

theorem hexEscape_controlEscape {c : Char} (control : c.toNat < 0x20) (rest : List Symbol) :
    hexEscape (characters ((controlEscape c).drop 2) ++ rest) = .ok (c.toNat, rest) := by
  have zero : Text.hexValue? '0' = some 0 := by decide
  have third := hexValue?_hexDigit (show c.toNat / 16 < 16 by omega)
  have fourth := hexValue?_hexDigit (show c.toNat % 16 < 16 by omega)
  have digits : hexFour (.char '0') (.char '0') (.char (Text.hexDigit (c.toNat / 16)))
      (.char (Text.hexDigit (c.toNat % 16))) = some c.toNat := by
    simp only [hexFour, Symbol.char?, bind, Option.bind, zero, pure, third, fourth, Option.some.injEq]
    omega
  simp only [controlEscape, List.drop_succ_cons, List.drop_zero, characters_cons, characters_nil, List.cons_append,
    List.nil_append, hexEscape, digits]

theorem escape_controlEscape {c : Char} (control : c.toNat < 0x20) (rest : List Symbol) :
    escape .wanted (characters (controlEscape c).tail ++ rest) = .ok (c, rest) := by
  have lead : isLead c.toNat = false := by simp [isLead]; omega
  have trail : isTrail c.toNat = false := by simp [isTrail]; omega
  show codeEscape .wanted (characters ((controlEscape c).drop 2) ++ rest) = _
  simp only [codeEscape, bind_apply, hexEscape_controlEscape control, lead, trail, pure_apply, Char.ofNat_toNat,
    Bool.false_eq_true, if_false]

theorem stringStep_escaped (c : Char) (read rest : List Symbol) :
    stringStep .wanted read (characters (escaped c) ++ rest) = .ok (.inl (.char c :: read), rest) := by
  -- One case for each escape of one letter, then the control characters, then what is printed as it is.
  unfold escaped
  split
  · subst_vars; rfl
  rename_i quote
  split
  · subst_vars; rfl
  rename_i backslash
  iterate 5
    split
    · subst_vars; rfl
  split
  · rename_i low
    have control : c.toNat < 0x20 := low
    have step := map_ok (fun c => (Sum.inl (Symbol.char c :: read) : List Symbol ⊕ List Symbol))
      (escape_controlEscape control rest)
    simpa only [controlEscape, characters_cons, List.cons_append, List.tail_cons, stringStep] using step
  · rename_i high
    have printed : ¬c.toNat < 0x20 := high
    simp only [characters_cons, characters_nil, List.cons_append, List.nil_append, stringStep]
    rw [if_neg printed]

theorem escaped_ne_nil (c : Char) : escaped c ≠ [] := by
  unfold escaped
  repeat' split
  all_goals simp [controlEscape]

theorem iterateWithin_stringStep (cs : List Char) (read rest : List Symbol) (bound : Nat)
    (enough : cs.length < bound) :
    iterateWithin (stringStep .wanted) bound read (characters (cs.flatMap escaped ++ ['"']) ++ rest) =
      .ok (read.reverse ++ characters cs, rest) := by
  induction cs generalizing read bound with
  | nil =>
      obtain ⟨bound, rfl⟩ := Nat.exists_eq_add_of_lt enough
      exact iterateWithin_inr (by simp [stringStep]) _
  | cons c cs ih =>
      obtain ⟨bound, rfl⟩ : ∃ n, bound = n + 1 := ⟨bound - 1, by omega⟩
      have step := stringStep_escaped c read (characters (cs.flatMap escaped ++ ['"']) ++ rest)
      rw [List.flatMap_cons, List.append_assoc, characters_append, List.append_assoc, iterateWithin_inl step,
        ih (.char c :: read) bound (by simpa using enough)]
      simp

theorem length_le_length_flatMap_escaped (cs : List Char) : cs.length ≤ (cs.flatMap escaped).length := by
  induction cs with
  | nil => simp
  | cons c cs ih =>
      have := List.length_pos_iff.2 (escaped_ne_nil c)
      simp only [List.length_cons, List.flatMap_cons, List.length_append]
      omega

theorem stringBody_stringText (s : String) (rest : List Symbol) :
    stringBody (characters (s.toList.flatMap escaped ++ ['"']) ++ rest) = .ok (s, rest) := by
  have enough := length_le_length_flatMap_escaped s.toList
  have loop := iterateWithin_stringStep s.toList [] rest
    ((characters (s.toList.flatMap escaped ++ ['"']) ++ rest).length + 1)
    (by simp only [List.length_append, length_characters]; omega)
  simp only [stringBody, bind_apply, iterate, loop, List.reverse_nil, List.nil_append, mapM_char?_characters,
    pure_apply, String.ofList_toList]

theorem string_stringText (s : String) (rest : List Symbol) :
    string (characters (stringText s) ++ rest) = .ok (s, rest) := by
  have body := stringBody_stringText s rest
  simpa [string, afterBlanks, skipBlanks, stringText, isBlank] using body

end Reader

end Emplace.Json
