import Emplace.Proofs.Json.Numbers
import Emplace.Record.Wire

namespace Emplace

open Json (Fault Reader Ended render renderItems renderMembers)
open Json.Reader
open Text (Symbol characters toString_int_cons)

variable {α β ρ : Type}

/-- A reader takes a text off the front of whatever ends a value. -/
def Json.Reader.Takes (reader : Reader α) (text : List Char) (a : α) : Prop :=
  ∀ rest, Ended rest → reader (characters text ++ rest) = .ok (a, rest)

def Opening (c : Char) : Prop := isBlank (.char c) = false ∧ c ≠ ',' ∧ c ≠ ']'

structure Shape.Faithful (shape : Shape α) : Prop where
  opening : ∀ a, ∃ c cs, render (shape.write a) = c :: cs ∧ Opening c
  takes : ∀ a, Takes shape.read (render (shape.write a)) a

theorem Shape.Faithful.decode_encode {shape : Shape α} (faithful : shape.Faithful) (a : α) :
    shape.decode (shape.encode a) = .ok a := by
  have read := faithful.takes a [] (.inl rfl)
  rw [List.append_nil] at read
  simp [Shape.decode, Shape.encode, Json.bytes, Text.symbols_encode, readAll, read, skipBlanks]

theorem Shape.Faithful.encode_ne_nil {shape : Shape α} (faithful : shape.Faithful) (a : α) :
    shape.encode a ≠ [] := by
  obtain ⟨c, cs, eq, -⟩ := faithful.opening a
  simp [Shape.encode, Json.bytes, Text.encode_eq_nil_iff, eq]

theorem Json.Reader.Takes.map {reader : Reader α} {text : List Char} {a : α} (takes : Takes reader text a)
    (f : α → β) : Takes (reader.map f) text (f a) :=
  fun rest ended => map_ok f (takes rest ended)

theorem skipBlanks_cons {s : Symbol} (printed : isBlank s = false) (tail : List Symbol) :
    skipBlanks (s :: tail) = s :: tail :=
  List.dropWhile_cons_of_neg (by simp [printed])

/-! ## Plain values -/

namespace Shape

theorem text_faithful : text.Faithful where
  opening s := ⟨'"', _, rfl, rfl, by decide, by decide⟩
  takes s rest _ := string_stringText s rest

theorem opening_of_toString_int (z : Int) :
    ∃ c cs, render (.whole z) = c :: cs ∧ Opening c ∧ c ≠ 'n' := by
  obtain ⟨c, cs, eq, lead⟩ := toString_int_cons z
  have blank : isBlank (.char c) = false := by
    rcases lead with rfl | digit
    · rfl
    · exact isBlank_digit digit
  refine ⟨c, cs, eq, ⟨blank, ?_, ?_⟩, ?_⟩ <;> rintro rfl <;> exact absurd lead (by decide)

theorem whole_faithful {toInt : α → Int} {ofInt? : Int → Option α} (low : ∀ a, -0x8000000000000000 ≤ toInt a)
    (high : ∀ a, toInt a < UInt64.size) (back : ∀ a, ofInt? (toInt a) = some a) : (whole toInt ofInt?).Faithful where
  opening a := by
    obtain ⟨c, cs, eq, opening, -⟩ := opening_of_toString_int (toInt a)
    exact ⟨c, cs, eq, opening⟩
  takes a rest ended := by
    have lower := low a
    have upper := high a
    refine numberThat_toString lower upper ended ?_
    by_cases sign : 0 ≤ toInt a
    · have value : (UInt64.ofNat (toInt a).toNat).toNat = (toInt a).toNat :=
        UInt64.toNat_ofNat_of_lt' (by omega)
      simp only [if_pos sign, value, Int.toNat_of_nonneg sign, back]
    · have value : (Int64.ofInt (toInt a)).toInt = toInt a :=
        Int64.toInt_ofInt_of_le (by omega) (by omega)
      simp only [if_neg sign, value, back]

theorem int32_faithful : int32.Faithful := by
  refine whole_faithful (fun n => ?_) (fun n => ?_) (fun n => ?_)
  · have := n.le_toInt
    omega
  · exact Int.lt_trans n.toInt_lt (by decide)
  · have low : -0x80000000 ≤ n.toInt := n.le_toInt
    have high : n.toInt < 0x80000000 := n.toInt_lt
    rw [if_pos ⟨low, high⟩, Int32.ofInt_toInt]

theorem word64_faithful : word64.Faithful := by
  refine whole_faithful (fun n => ?_) (fun n => ?_) (fun n => ?_)
  · exact Int.le_trans (by decide) (Int.natCast_nonneg n.toNat)
  · exact Int.ofNat_lt.2 n.toNat_lt
  · have high : (n.toNat : Int) < UInt64.size := Int.ofNat_lt.2 n.toNat_lt
    rw [if_pos ⟨Int.natCast_nonneg _, high⟩, Int.toNat_natCast, UInt64.ofNat_toNat]

theorem flag_faithful : flag.Faithful where
  opening
    | true => ⟨'t', _, rfl, rfl, by decide, by decide⟩
    | false => ⟨'f', _, rfl, rfl, by decide, by decide⟩
  takes
    | true, _, _ => rfl
    | false, _, _ => rfl

theorem optional_faithful {shape : Shape α} (faithful : shape.Faithful)
    (notNull : ∀ a c cs, render (shape.write a) = c :: cs → c ≠ 'n') : shape.optional.Faithful where
  opening
    | none => ⟨'n', _, rfl, rfl, by decide, by decide⟩
    | some a => faithful.opening a
  takes
    | none, _, _ => rfl
    | some a, rest, ended => by
      have read := map_ok some (faithful.takes a rest ended)
      obtain ⟨c, cs, eq, opening⟩ := faithful.opening a
      have value := notNull a c cs eq
      show Reader.optional shape.read (characters (render (shape.write a)) ++ rest) = _
      rw [eq, Text.characters_cons, List.cons_append] at read ⊢
      rw [Reader.optional, afterBlanks, skipBlanks_cons opening.1]
      simpa [value] using read

/-! ## Lists -/

theorem another_close (first : Bool) (tail : List Symbol) :
    another first (.char ']' :: tail) = .ok (false, .char ']' :: tail) := rfl

theorem another_first {c : Char} (opening : Opening c) (tail : List Symbol) :
    another true (.char c :: tail) = .ok (true, .char c :: tail) := by
  rw [another, afterBlanks, skipBlanks_cons opening.1]
  simp [opening.2.1, opening.2.2]

theorem another_comma {c : Char} (opening : Opening c) (tail : List Symbol) :
    another false (.char ',' :: .char c :: tail) = .ok (true, .char c :: tail) := by
  rw [another, afterBlanks, skipBlanks_cons (show isBlank (.char ',') = false from rfl)]
  simp only [Bool.false_eq_true, if_false, skipBlanks_cons opening.1]
  simp [opening.2.2]

theorem listStep_close (element : Reader α) (read : List α) (tail : List Symbol) :
    listStep element read (.char ']' :: tail) = .ok (.inr read.reverse, tail) := by
  simp only [listStep, bind_apply, another_close]
  rfl

theorem listStep_element {element : Reader α} {read : List α} {a : α} {input rest rest' : List Symbol}
    (more : another read.isEmpty input = .ok (true, rest)) (taken : element rest = .ok (a, rest')) :
    listStep element read input = .ok (.inl (a :: read), rest') := by
  simp only [listStep, bind_apply, more, taken, if_true]
  rfl

theorem listStep_first {shape : Shape α} (faithful : shape.Faithful) (a : α) {rest : List Symbol} (ended : Ended rest) :
    listStep shape.read [] (characters (render (shape.write a)) ++ rest) = .ok (.inl [a], rest) := by
  obtain ⟨c, cs, eq, opening⟩ := faithful.opening a
  have taken := faithful.takes a rest ended
  rw [eq] at taken ⊢
  exact listStep_element (another_first opening _) taken

theorem listStep_next {shape : Shape α} (faithful : shape.Faithful) (a : α) {read : List α} (nonempty : read ≠ [])
    {rest : List Symbol} (ended : Ended rest) :
    listStep shape.read read (.char ',' :: (characters (render (shape.write a)) ++ rest)) =
      .ok (.inl (a :: read), rest) := by
  obtain ⟨c, cs, eq, opening⟩ := faithful.opening a
  have taken := faithful.takes a rest ended
  have later : read.isEmpty = false := by simpa using nonempty
  rw [eq] at taken ⊢
  exact listStep_element (later ▸ another_comma opening _) taken

def itemsTail (shape : Shape α) (as : List α) (rest : List Symbol) : List Symbol :=
  characters (renderItems (as.map shape.write)) ++ .char ']' :: rest

theorem itemsTail_nil (shape : Shape α) (rest : List Symbol) : itemsTail shape [] rest = .char ']' :: rest := rfl

theorem itemsTail_cons (shape : Shape α) (a : α) (as : List α) (rest : List Symbol) :
    itemsTail shape (a :: as) rest = .char ',' :: (characters (render (shape.write a)) ++ itemsTail shape as rest) := by
  simp [itemsTail, renderItems]

theorem ended_itemsTail (shape : Shape α) (as : List α) (rest : List Symbol) : Ended (itemsTail shape as rest) := by
  cases as with
  | nil => exact Json.ended_cons ']' _ (by decide)
  | cons a as =>
      rw [itemsTail_cons]
      exact Json.ended_cons ',' _ (by decide)

theorem iterateWithin_listStep {shape : Shape α} (faithful : shape.Faithful) (as read : List α) (nonempty : read ≠ [])
    (rest : List Symbol) (bound : Nat) (enough : as.length < bound) :
    iterateWithin (listStep shape.read) bound read (itemsTail shape as rest) = .ok (read.reverse ++ as, rest) := by
  induction as generalizing read bound with
  | nil =>
      obtain ⟨bound, rfl⟩ : ∃ n, bound = n + 1 := ⟨bound - 1, by omega⟩
      simpa [itemsTail_nil] using iterateWithin_inr (listStep_close shape.read read rest) bound
  | cons a as ih =>
      obtain ⟨bound, rfl⟩ : ∃ n, bound = n + 1 := ⟨bound - 1, by omega⟩
      rw [itemsTail_cons, iterateWithin_inl (listStep_next faithful a nonempty (ended_itemsTail shape as rest)),
        ih (a :: read) (by simp) bound (by simpa using enough)]
      simp

theorem length_le_length_itemsTail (shape : Shape α) (as : List α) (rest : List Symbol) :
    as.length < (itemsTail shape as rest).length := by
  induction as with
  | nil => simp [itemsTail_nil]
  | cons a as ih =>
      rw [itemsTail_cons, List.length_cons, List.length_cons, List.length_append]
      omega

theorem list_faithful {shape : Shape α} (faithful : shape.Faithful) : shape.list.Faithful where
  opening
    | [] => ⟨'[', _, rfl, rfl, by decide, by decide⟩
    | _ :: _ => ⟨'[', _, rfl, rfl, by decide, by decide⟩
  takes
    | [], rest, _ => iterateWithin_inr (listStep_close shape.read [] rest) (rest.length + 1)
    | a :: as, rest, _ => by
      have text : characters (render (.list ((a :: as).map shape.write))) ++ rest =
          .char '[' :: (characters (render (shape.write a)) ++ itemsTail shape as rest) := by
        simp [render, itemsTail]
      show Reader.list shape.read (characters (render (.list ((a :: as).map shape.write))) ++ rest) = _
      rw [text]
      show iterateWithin (listStep shape.read) (_ + 1) [] _ = _
      rw [iterateWithin_inl (listStep_first faithful a (ended_itemsTail shape as rest)),
        iterateWithin_listStep faithful as [a] (by simp) rest]
      · simp
      · have := length_le_length_itemsTail shape as rest
        rw [List.length_append]
        omega

end Shape

/-! ## Records -/

namespace Fields

inductive Fits (fields : Fields α) (a : α) : List (String × Json) → fields.Slots → Prop
  | nil {slots} (complete : fields.complete slots = some a) : Fits fields a [] slots
  | cons {name value members next reader slots slots'} (field : fields.take name = some next)
      (unread : next slots = some reader) (takes : Takes reader (render value) slots')
      (rest : Fits fields a members slots') : Fits fields a ((name, value) :: members) slots

def membersTail (members : List (String × Json)) (rest : List Symbol) : List Symbol :=
  characters (renderMembers members) ++ .char '}' :: rest

def memberText (name : String) (value : Json) : List Char := Json.stringText name ++ ':' :: render value

theorem membersTail_nil (rest : List Symbol) : membersTail [] rest = .char '}' :: rest := rfl

theorem membersTail_cons (name : String) (value : Json) (members : List (String × Json)) (rest : List Symbol) :
    membersTail ((name, value) :: members) rest =
      .char ',' :: (characters (memberText name value) ++ membersTail members rest) := by
  simp [membersTail, memberText, renderMembers]

theorem ended_membersTail (members : List (String × Json)) (rest : List Symbol) : Ended (membersTail members rest) := by
  cases members with
  | nil => exact Json.ended_cons '}' _ (by decide)
  | cons member members =>
      rw [membersTail_cons]
      exact Json.ended_cons ',' _ (by decide)

theorem nextKey_first (name : String) (tail : List Symbol) :
    nextKey true (characters (Json.stringText name) ++ tail) = .ok (some name, tail) := by
  have body := map_ok some (stringBody_stringText name tail)
  simpa [nextKey, afterBlanks, skipBlanks, Json.stringText, isBlank] using body

theorem nextKey_comma (name : String) (tail : List Symbol) :
    nextKey false (.char ',' :: (characters (Json.stringText name) ++ tail)) = .ok (some name, tail) := by
  have body := map_ok some (stringBody_stringText name tail)
  simpa [nextKey, afterBlanks, skipBlanks, Json.stringText, isBlank] using body

theorem objectStep_end (fields : Fields α) {first : Bool} {slots : fields.Slots} {a : α}
    (complete : fields.complete slots = some a) (rest : List Symbol) :
    fields.objectStep (first, slots) (.char '}' :: rest) = .ok (.inr a, rest) := by
  have close : nextKey first (.char '}' :: rest) = .ok (Option.none, .char '}' :: rest) := rfl
  simp only [objectStep, bind_apply, close, complete]
  rfl

theorem objectStep_member {fields : Fields α} {first : Bool} {slots slots' : fields.Slots} {name : String}
    {value : Json} {next : fields.Slots → Option (Reader fields.Slots)} {reader : Reader fields.Slots}
    {input rest : List Symbol}
    (key : nextKey first input = .ok (some name, .char ':' :: (characters (render value) ++ rest)))
    (field : fields.take name = some next) (unread : next slots = some reader)
    (takes : Takes reader (render value) slots') (ended : Ended rest) :
    fields.objectStep (first, slots) input = .ok (.inl (false, slots'), rest) := by
  have colon : Reader.colon (.char ':' :: (characters (render value) ++ rest)) =
      .ok ((), characters (render value) ++ rest) := rfl
  simp only [objectStep, bind_apply, key, field, unread, colon, takes rest ended]
  rfl

theorem iterateWithin_objectStep {fields : Fields α} {a : α} {members : List (String × Json)} {slots : fields.Slots}
    (fits : fields.Fits a members slots) (rest : List Symbol) (bound : Nat) (enough : members.length < bound) :
    iterateWithin fields.objectStep bound (false, slots) (membersTail members rest) = .ok (a, rest) := by
  induction fits generalizing bound with
  | nil complete =>
      obtain ⟨bound, rfl⟩ : ∃ n, bound = n + 1 := ⟨bound - 1, by omega⟩
      exact iterateWithin_inr (objectStep_end fields complete rest) bound
  | @cons name value members next reader slots slots' field unread takes _ ih =>
      obtain ⟨bound, rfl⟩ : ∃ n, bound = n + 1 := ⟨bound - 1, by omega⟩
      have key := nextKey_comma name (.char ':' :: (characters (render value) ++ membersTail members rest))
      have step := objectStep_member key field unread takes (ended_membersTail members rest)
      rw [membersTail_cons, memberText]
      simp only [Text.characters_append, Text.characters_cons, List.append_assoc, List.cons_append]
      rw [iterateWithin_inl step]
      exact ih bound (by simpa using enough)

theorem length_lt_length_membersTail (members : List (String × Json)) (rest : List Symbol) :
    members.length < (membersTail members rest).length := by
  induction members with
  | nil => simp [membersTail_nil]
  | cons member members ih =>
      rw [membersTail_cons, List.length_cons, List.length_cons, List.length_append]
      omega

theorem read_of_fits {fields : Fields α} {a : α} {members : List (String × Json)}
    (fits : fields.Fits a members fields.blank) : Takes fields.read (render (.object members)) a := by
  intro rest ended
  cases fits with
  | nil complete => exact iterateWithin_inr (objectStep_end fields complete rest) (rest.length + 1)
  | @cons name value members next reader _ slots' field unread takes later =>
      have key := nextKey_first name (.char ':' :: (characters (render value) ++ membersTail members rest))
      have step := objectStep_member key field unread takes (ended_membersTail members rest)
      have text : characters (render (.object ((name, value) :: members))) ++ rest =
          .char '{' :: (characters (Json.stringText name) ++
            .char ':' :: (characters (render value) ++ membersTail members rest)) := by
        simp [render, membersTail]
      rw [text]
      show iterateWithin fields.objectStep (_ + 1) (true, fields.blank) _ = _
      rw [iterateWithin_inl step, iterateWithin_objectStep later rest]
      have := length_lt_length_membersTail members rest
      simp only [List.length_append, List.length_cons]
      omega

/-! ## Fields one by one -/

/-- The fields of a record have these names and take back what they write. -/
structure Faithful (fields : Fields α) (names : List String) : Prop where
  named : ∀ a, ∀ member ∈ fields.write a, member.1 ∈ names
  fits : ∀ a, fields.Fits a (fields.write a) fields.blank

theorem take_cons_self (field : Field β) (fields : Fields α) :
    (Fields.cons field fields).take field.name = some fun
      | (some _, _) => Option.none
      | (Option.none, slots) => some (field.shape.read.map fun b => (some b, slots)) := by
  simp only [Fields.cons, if_true]
  congr 1
  funext slots
  split <;> rfl

theorem Fits.beside {field : Field β} {fields : Fields α} {a : α} {b : β} {slot : Option β}
    (settled : (slot <|> field.absent) = some b) {members : List (String × Json)} {slots : fields.Slots}
    (fits : fields.Fits a members slots) (fresh : ∀ member ∈ members, member.1 ≠ field.name) :
    (Fields.cons field fields).Fits (b, a) members (slot, slots) := by
  -- No member has the name of the field, so each is taken by the others.
  induction fits with
  | nil complete => exact .nil (by simp only [Fields.cons, settled, complete]; rfl)
  | @cons name value members next reader slots slots' taken unread takes rest ih =>
      have field_take : (Fields.cons field fields).take name = some fun (slot, slots) =>
          (next slots).map fun reader => reader.map fun slots => (slot, slots) := by
        simp only [Fields.cons, if_neg (fresh _ List.mem_cons_self), taken, Option.map_some]
      have slots_unread : (next slots).map (fun reader => reader.map fun slots => (slot, slots)) =
          some (reader.map fun slots => (slot, slots)) := by
        rw [unread, Option.map_some]
      exact .cons field_take slots_unread (takes.map _)
        (ih fun member inside => fresh member (List.mem_cons_of_mem _ inside))

theorem Faithful.cons {field : Field β} {fields : Fields α} {names : List String} (shape : field.shape.Faithful)
    (omitted : ∀ b, field.leftOut b = true → field.absent = some b) (fields_faithful : fields.Faithful names)
    (fresh : field.name ∉ names) : (Fields.cons field fields).Faithful (field.name :: names) := by
  have apart (a : α) : ∀ member ∈ fields.write a, member.1 ≠ field.name := by
    rintro member inside same
    exact fresh (same ▸ fields_faithful.named a member inside)
  constructor
  · rintro ⟨b, a⟩ member inside
    rcases List.mem_append.1 inside with own | other
    · split at own
      · cases own
      · rw [List.mem_singleton.1 own]
        exact List.mem_cons_self
    · exact List.mem_cons_of_mem _ (fields_faithful.named a member other)
  · rintro ⟨b, a⟩
    show (Fields.cons field fields).Fits (b, a)
      ((if field.leftOut b then [] else [(field.name, field.shape.write b)]) ++ fields.write a)
      (Option.none, fields.blank)
    -- A field that is left out is read as absent; otherwise its member comes first and fills its slot.
    split
    · rename_i out
      exact (fields_faithful.fits a).beside (by simp [omitted b out]) (apart a)
    · exact .cons (take_cons_self field fields) rfl
        ((shape.takes b).map fun b => (some b, fields.blank)) ((fields_faithful.fits a).beside rfl (apart a))

theorem none_faithful : none.Faithful [] where
  named _ _ inside := by cases inside
  fits _ := .nil rfl

end Fields

theorem Shape.record_faithful {fields : Fields α} {names : List String} (faithful : fields.Faithful names)
    {make : α → ρ} {parts : ρ → α} (inverse : ∀ r, make (parts r) = r) : (record fields make parts).Faithful where
  opening r := by
    cases written : fields.write (parts r) with
    | nil => exact ⟨'{', _, by simp [record, written, render]; rfl, rfl, by decide, by decide⟩
    | cons member members => exact ⟨'{', _, by simp [record, written, render]; rfl, rfl, by decide, by decide⟩
  takes r := by
    have read := (Fields.read_of_fits (faithful.fits (parts r))).map make
    rwa [inverse r] at read

end Emplace
