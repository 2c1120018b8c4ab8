import Emplace.Proofs.Json.Numbers

namespace Emplace.Json.Reader

open Text (Symbol characters characters_nil characters_cons characters_append length_characters toString_int
  toString_int_cons)

variable {α β σ : Type}

theorem iterateWithin_error {step : σ → Reader (σ ⊕ α)} {state : σ} {input : List Symbol} {fault : Fault}
    (refused : step state input = .error fault) (bound : Nat) :
    iterateWithin step (bound + 1) state input = .error fault := by
  simp only [iterateWithin, refused]

theorem stringStep_ignored_escaped (c : Char) (read rest : List Symbol) :
    ∃ d, stringStep .ignored read (characters (escaped c) ++ rest) = .ok (.inl (.char d :: read), rest) := by
  unfold escaped
  split
  · exact ⟨_, rfl⟩
  split
  · exact ⟨_, rfl⟩
  iterate 5
    split
    · exact ⟨_, rfl⟩
  split
  · rename_i low
    have control : c.toNat < 0x20 := low
    -- The code of the character is read and forgotten.
    have code : escape .ignored (characters (controlEscape c).tail ++ rest) = .ok ('\x00', rest) := by
      show codeEscape .ignored (characters ((controlEscape c).drop 2) ++ rest) = _
      simp only [codeEscape, bind_apply, hexEscape_controlEscape control, pure_apply]
    exact ⟨_, map_ok (fun d => (.inl (.char d :: read) : List Symbol ⊕ List Symbol)) code⟩
  · rename_i high
    have printed : ¬c.toNat < 0x20 := high
    refine ⟨c, ?_⟩
    simp only [characters_cons, characters_nil, List.cons_append, List.nil_append, stringStep]
    rw [if_neg printed]

theorem iterateWithin_stringStep_ignored (cs : List Char) (read rest : List Symbol) (bound : Nat)
    (enough : cs.length < bound) :
    ∃ symbols, iterateWithin (stringStep .ignored) bound read (characters (cs.flatMap escaped ++ ['"']) ++ rest) =
      .ok (symbols, rest) := by
  induction cs generalizing read bound with
  | nil =>
      obtain ⟨bound, rfl⟩ : ∃ n, bound = n + 1 := ⟨bound - 1, by omega⟩
      exact ⟨read.reverse, iterateWithin_inr (by simp [stringStep]) _⟩
  | cons c cs ih =>
      obtain ⟨bound, rfl⟩ : ∃ n, bound = n + 1 := ⟨bound - 1, by omega⟩
      obtain ⟨d, step⟩ := stringStep_ignored_escaped c read (characters (cs.flatMap escaped ++ ['"']) ++ rest)
      obtain ⟨symbols, later⟩ := ih (.char d :: read) bound (by simpa using enough)
      refine ⟨symbols, ?_⟩
      rw [List.flatMap_cons, List.append_assoc, characters_append, List.append_assoc, iterateWithin_inl step, later]

theorem skipStringBody_stringText (s : String) (rest : List Symbol) :
    skipStringBody (characters (s.toList.flatMap escaped ++ ['"']) ++ rest) = .ok ((), rest) := by
  have enough := length_le_length_flatMap_escaped s.toList
  obtain ⟨symbols, loop⟩ := iterateWithin_stringStep_ignored s.toList [] rest
    ((characters (s.toList.flatMap escaped ++ ['"']) ++ rest).length + 1)
    (by simp only [List.length_append, length_characters]; omega)
  exact map_ok (fun _ => ()) loop

def Skips (text : List Char) : Prop :=
  ∃ steps ≤ 4 * text.length, ∀ frames rest bound, Ended rest →
    iterateWithin skipStep (steps + bound) (.value, frames) (characters text ++ rest) =
      iterateWithin skipStep bound (.continuation, frames) rest

theorem Skips.skipValue {text : List Char} (skips : Skips text) {rest : List Symbol} (ended : Ended rest) :
    skipValue (characters text ++ rest) = .ok ((), rest) := by
  obtain ⟨steps, few, loop⟩ := skips
  obtain ⟨bound, eq⟩ : ∃ bound, 4 * ((characters text ++ rest).length + 1) = steps + (bound + 1) := by
    refine ⟨4 * ((characters text ++ rest).length + 1) - steps - 1, ?_⟩
    rw [List.length_append, length_characters]
    omega
  have done : skipStep (.continuation, []) rest = .ok (.inr (), rest) := rfl
  rw [Reader.skipValue, eq, loop [] rest (bound + 1) ended, iterateWithin_inr done]

theorem Skips.of_front {text : List Char} (nonempty : text ≠ [])
    (front : ∀ frames rest, Ended rest →
      skipFront frames (characters text ++ rest) = .ok ((.continuation, frames), rest)) : Skips text := by
  refine ⟨1, ?_, fun frames rest bound ended => ?_⟩
  · have := List.length_pos_iff.2 nonempty
    omega
  · have step : skipStep (.value, frames) (characters text ++ rest) = .ok (.inl (.continuation, frames), rest) :=
      map_ok _ (front frames rest ended)
    rw [Nat.add_comm, iterateWithin_inl step]

theorem skips_text (s : String) : Skips (render (.text s)) := by
  refine .of_front (List.cons_ne_nil _ _) fun frames rest _ => ?_
  have body := map_ok (fun _ => (Awaited.continuation, frames)) (skipStringBody_stringText s rest)
  simpa [render, stringText, skipFront, afterBlanks, skipBlanks, isBlank] using body

theorem skips_null : Skips (render .null) := .of_front (List.cons_ne_nil _ _) fun _ _ _ => rfl

theorem exists_numeral_toString (z : Int) {rest : List Symbol} (ended : Ended rest) :
    ∃ n, numeral .ignored (characters (toString z).toList ++ rest) = .ok (n, rest) := by
  rw [toString_int]
  split
  · exact ⟨_, numeral_toDigits .ignored ended⟩
  · exact ⟨_, numeral_minus_toDigits .ignored ended⟩

theorem skipFront_numeral {c : Char} (lead : c = '-' ∨ c.isDigit = true) (frames : List Frame) (tail : List Symbol) :
    skipFront frames (.char c :: tail) =
      (numeral .ignored).map (fun _ => (Awaited.continuation, frames)) (.char c :: tail) := by
  rcases lead with rfl | digit
  · rfl
  · have other : ∀ d : Char, d.isDigit = false → c ≠ d := by
      rintro d no rfl
      cases no.symm.trans digit
    rw [skipFront, afterBlanks, skipBlanks, List.dropWhile_cons_of_neg (by simp [isBlank_digit digit])]
    split <;> rename_i same <;> cases same
    case h_9 => exact if_pos digit
    all_goals exact absurd rfl (other _ (by decide))

theorem skips_whole (z : Int) : Skips (render (.whole z)) := by
  obtain ⟨c, cs, eq, lead⟩ := toString_int_cons z
  refine .of_front (by rw [render, eq]; exact List.cons_ne_nil _ _) fun frames rest ended => ?_
  obtain ⟨n, read⟩ := exists_numeral_toString z ended
  rw [render, eq] at *
  exact (skipFront_numeral lead frames _).trans (map_ok _ read)

theorem skipStep_open (frames : List Frame) (tail : List Symbol) :
    skipStep (.value, frames) (.char '[' :: tail) = .ok (.inl (.opened, .inList :: frames), tail) := rfl

theorem skipStep_close (awaited : Awaited) (other : awaited ≠ .value) (frames : List Frame) (tail : List Symbol) :
    skipStep (awaited, .inList :: frames) (.char ']' :: tail) = .ok (.inl (.continuation, frames), tail) := by
  cases awaited with
  | value => exact absurd rfl other
  | opened | continuation => rfl

theorem skipStep_comma (frames : List Frame) (tail : List Symbol) :
    skipStep (.continuation, .inList :: frames) (.char ',' :: tail) = .ok (.inl (.value, .inList :: frames), tail) :=
  rfl

theorem skipStep_first {c : Char} (blank : isBlank (.char c) = false) (element : c ≠ ']') (frames : List Frame)
    (tail : List Symbol) :
    skipStep (.opened, .inList :: frames) (.char c :: tail) =
      .ok (.inl (.value, .inList :: frames), .char c :: tail) := by
  have bracket : ¬Symbol.char c = .char Frame.inList.closing := fun same => element (Symbol.char.inj same)
  simp only [skipStep, afterBlanks, skipBlanks, List.dropWhile_cons_of_neg (show ¬isBlank (.char c) = true by simp [blank]),
    if_neg bracket, if_true]
  rfl

theorem ended_renderItems (items : List Json) (rest : List Symbol) :
    Ended (characters (renderItems items) ++ .char ']' :: rest) := by
  cases items with
  | nil => exact ended_cons ']' _ (by decide)
  | cons v items => exact ended_cons ',' _ (by decide)

theorem skips_items {items : List Json} (skips : ∀ v ∈ items, Skips (render v)) :
    ∃ steps ≤ 4 * (renderItems items).length + 1, ∀ frames rest bound,
      iterateWithin skipStep (steps + bound) (.continuation, .inList :: frames)
          (characters (renderItems items) ++ .char ']' :: rest) =
        iterateWithin skipStep bound (.continuation, frames) rest := by
  induction items with
  | nil =>
      refine ⟨1, Nat.le_refl _, fun frames rest bound => ?_⟩
      rw [Nat.add_comm]
      exact iterateWithin_inl (skipStep_close .continuation (by decide) frames rest) bound
  | cons v items ih =>
      obtain ⟨steps, few, loop⟩ := ih fun w member => skips w (List.mem_cons_of_mem _ member)
      obtain ⟨own, few', one⟩ := skips v List.mem_cons_self
      refine ⟨1 + own + steps, ?_, fun frames rest bound => ?_⟩
      · simp only [renderItems, List.length_append, List.length_singleton]
        omega
      · have text : characters (renderItems (v :: items)) ++ .char ']' :: rest =
            .char ',' :: (characters (render v) ++ (characters (renderItems items) ++ .char ']' :: rest)) := by
          simp [renderItems]
        rw [text, show 1 + own + steps + bound = own + (steps + bound) + 1 by omega,
          iterateWithin_inl (skipStep_comma frames _), one _ _ _ (ended_renderItems items rest), loop]

theorem skips_list {items : List Json} (skips : ∀ v ∈ items, Skips (render v))
    (opening : ∀ v ∈ items, ∃ c cs, render v = c :: cs ∧ isBlank (.char c) = false ∧ c ≠ ']') :
    Skips (render (.list items)) := by
  cases items with
  | nil =>
      refine ⟨2, by simp [render], fun frames rest bound _ => ?_⟩
      have close := skipStep_close .opened (by decide) frames rest
      rw [Nat.add_comm]
      exact (iterateWithin_inl (skipStep_open frames _) _).trans (iterateWithin_inl close _)
  | cons v items =>
      obtain ⟨steps, few, loop⟩ := skips_items fun w member => skips w (List.mem_cons_of_mem _ member)
      obtain ⟨own, few', one⟩ := skips v List.mem_cons_self
      obtain ⟨c, cs, eq, blank, element⟩ := opening v List.mem_cons_self
      refine ⟨2 + own + steps, ?_, fun frames rest bound _ => ?_⟩
      · simp only [render, List.length_append, List.length_singleton]
        omega
      · have text : characters (render (.list (v :: items))) ++ rest =
            .char '[' :: (characters (render v) ++ (characters (renderItems items) ++ .char ']' :: rest)) := by
          simp [render]
        have first : skipStep (.opened, .inList :: frames)
            (characters (render v) ++ (characters (renderItems items) ++ .char ']' :: rest)) =
              .ok (.inl (.value, .inList :: frames),
                characters (render v) ++ (characters (renderItems items) ++ .char ']' :: rest)) := by
          rw [eq]
          exact skipStep_first blank element frames _
        rw [text, show 2 + own + steps + bound = own + (steps + bound) + 1 + 1 by omega,
          iterateWithin_inl (skipStep_open frames _), iterateWithin_inl first, one _ _ _ (ended_renderItems items rest),
          loop]

end Emplace.Json.Reader
