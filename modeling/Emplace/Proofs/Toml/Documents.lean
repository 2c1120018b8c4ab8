import Emplace.Proofs.Toml.Values

namespace Emplace.Toml

open Reader

/-! ## Names -/

def Bare (name : String) : Prop := (!name.toList.isEmpty && name.toList.all isBareChar) = true

instance (name : String) : Decidable (Bare name) := instDecidableEqBool _ _

variable {name : String} {rest : List Char}

theorem Bare.all (bare : Bare name) : ∀ c ∈ name.toList, isBareChar c = true := by
  rw [Bare, Bool.and_eq_true, List.all_eq_true] at bare
  exact bare.2

theorem Bare.cons (bare : Bare name) : ∃ c cs, name.toList = c :: cs ∧ isBareChar c = true := by
  have nonempty : name.toList ≠ [] := by
    rintro empty
    simp [Bare, empty] at bare
  obtain ⟨c, cs, eq⟩ := List.exists_cons_of_ne_nil nonempty
  exact ⟨c, cs, eq, bare.all c (by simp [eq])⟩

theorem ne_of_isBareChar {c d : Char} (bare : isBareChar c = true) (other : isBareChar d = false) : c ≠ d := by
  rintro rfl
  simp [bare] at other

theorem Bare.append_ne (bare : Bare name) {d : Char} (other : isBareChar d = false) (tail : List Char) :
    name.toList ++ rest ≠ d :: tail := by
  obtain ⟨c, cs, eq, front⟩ := bare.cons
  rw [eq, List.cons_append]
  intro same
  exact ne_of_isBareChar front other (List.cons.inj same).1

theorem keyPart_bare (bare : Bare name) (behind : ∀ c, rest.head? = some c → isBareChar c = false) :
    keyPart (name.toList ++ rest) = some (name, rest) := by
  obtain ⟨taken, dropped⟩ := run_front bare.all behind
  obtain ⟨c, cs, eq, front⟩ := bare.cons
  have run : run1 isBareChar (name.toList ++ rest) = some (name.toList, rest) := by
    have nonempty : name.toList.isEmpty = false := by rw [eq, List.isEmpty_cons]
    simp [run1, taken, dropped, nonempty]
  unfold keyPart
  split
  · rename_i quoted
    exact absurd quoted (bare.append_ne rfl _)
  · rename_i quoted
    exact absurd quoted (bare.append_ne rfl _)
  · simp only [run, Option.map_some, String.ofList_toList]

theorem isSpace_of_isBareChar {c : Char} (bare : isBareChar c = true) : isSpace c = false := by
  have space : c ≠ ' ' := ne_of_isBareChar bare rfl
  have tab : c ≠ '\t' := ne_of_isBareChar bare rfl
  simp [isSpace, space, tab]

theorem skipSpaces_bare (bare : Bare name) : skipSpaces (name.toList ++ rest) = some ((), name.toList ++ rest) := by
  obtain ⟨c, cs, eq, front⟩ := bare.cons
  simp [skipSpaces, eq, isSpace_of_isBareChar front]

theorem key_bare (bare : Bare name) (behind : ∀ c, rest.head? = some c → isBareChar c = false)
    (undotted : (rest.dropWhile isSpace).head? ≠ some '.') :
    key (name.toList ++ rest) = some (([], name), rest.dropWhile isSpace) := by
  have step : keyStep [] (name.toList ++ rest) = some (.inr [name], rest.dropWhile isSpace) := by
    have spaces : skipSpaces rest = some ((), rest.dropWhile isSpace) := rfl
    simp only [keyStep, bind_apply, skipSpaces_bare bare, keyPart_bare bare behind, spaces, Option.bind_some]
    split
    · rename_i dotted
      simp [dotted] at undotted
    · rfl
  have parts := (Yields.done step).iterate
  simp [key, parts, depthLimit]

/-! ## Tables -/

namespace Entries

variable {key : String} {change : Option Node → Option Node} {entries : Entries} {node : Node}

theorem alter_fresh (fresh : key ∉ entries.map Prod.fst) :
    entries.alter key change = (change none).map fun node => entries ++ [(key, node)] := by
  induction entries with
  | nil => rfl
  | cons e entries ih =>
      simp only [List.map_cons, List.mem_cons, not_or] at fresh
      have later := ih fresh.2
      have other : e.1 ≠ key := Ne.symm fresh.1
      simp only [alter, if_neg other, later, Option.map_map]
      rfl

theorem alter_last (fresh : key ∉ entries.map Prod.fst) :
    alter key change (entries ++ [(key, node)]) = (change (some node)).map fun node => entries ++ [(key, node)] := by
  induction entries with
  | nil => simp [alter]
  | cons e entries ih =>
      simp only [List.map_cons, List.mem_cons, not_or] at fresh
      have later := ih fresh.2
      have other : e.1 ≠ key := Ne.symm fresh.1
      simp only [List.cons_append, alter, if_neg other, later, Option.map_map]
      rfl

theorem insert_fresh (fresh : key ∉ entries.map Prod.fst) (v : Value) :
    entries.insert [] key v = some (entries ++ [(key, .leaf v)]) := by
  simp [insert, descend, alter_fresh fresh]

theorem openTable_fresh (fresh : key ∉ entries.map Prod.fst) :
    entries.openTable [] key = some (entries ++ [(key, .table .header [])]) := by
  simp [openTable, descend, alter_fresh fresh]

end Entries

/-! ## Lines -/

def sectionNode (entries : List (String × Item)) : Node :=
  .table .header (entries.map fun e => (e.1, .leaf e.2.value))

variable {before : Entries} {entries : List (String × Item)} {draft : Draft}

def draftIn (before : Entries) (name : String) (entries : List (String × Item)) : Draft :=
  ⟨before ++ [(name, sectionNode entries)], some ([], name)⟩

theorem add_entry {e : String × Item} (fresh : name ∉ before.map Prod.fst) (freshKey : e.1 ∉ entries.map Prod.fst) :
    (draftIn before name entries).add [] e.1 e.2.value = some (draftIn before name (entries ++ [e])) := by
  have filled : Entries.insert [] e.1 e.2.value (entries.map fun e => (e.1, Node.leaf e.2.value)) = some _ :=
    Entries.insert_fresh (by simpa using freshKey) e.2.value
  simp [Draft.add, draftIn, sectionNode, Entries.descend, Entries.alter_last fresh, filled]

theorem exists_item_cons (item : Item) : ∃ c cs, Printer.item item = c :: cs ∧ isSpace c = false := by
  cases item with
  | text s =>
      obtain ⟨quote, tail, eq, quotes⟩ := text_cons s
      exact ⟨quote, tail, eq, by rcases quotes with rfl | rfl <;> rfl⟩
  | integer n =>
      obtain ⟨c, cs, eq, lead⟩ := Text.toString_int_cons n
      refine ⟨c, cs, eq, ?_⟩
      rcases lead with rfl | digit
      · rfl
      · have bare : isBareChar c = true := by simp [isBareChar, Char.isAlphanum, digit]
        exact isSpace_of_isBareChar bare
  | texts items =>
      match items with
      | [] | [_] | _ :: _ :: _ => exact ⟨_, _, rfl, rfl⟩

theorem skipSpaces_item (item : Item) (rest : List Char) :
    skipSpaces (' ' :: (Printer.item item ++ rest)) = some ((), Printer.item item ++ rest) := by
  obtain ⟨c, cs, eq, solid⟩ := exists_item_cons item
  have space : isSpace ' ' = true := rfl
  simp [skipSpaces, eq, solid, space]

theorem keyValue_entry {e : String × Item} (fresh : name ∉ before.map Prod.fst) (freshKey : e.1 ∉ entries.map Prod.fst)
    (bare : Bare e.1) (fits : e.2.Fits) (rest : List Char) :
    keyValue (draftIn before name entries) (Printer.entry e ++ rest) =
      some (draftIn before name (entries ++ [e]), rest) := by
  have layout : Printer.entry e ++ rest = e.1.toList ++ ' ' :: '=' :: ' ' :: (Printer.item e.2 ++ '\n' :: rest) := by
    simp [Printer.entry]
  have name : key (e.1.toList ++ ' ' :: '=' :: ' ' :: (Printer.item e.2 ++ '\n' :: rest)) =
      some (([], e.1), '=' :: ' ' :: (Printer.item e.2 ++ '\n' :: rest)) :=
    key_bare bare (by rintro c ⟨⟩; rfl) (by simp [isSpace])
  have equals : exactly ['='] ('=' :: ' ' :: (Printer.item e.2 ++ '\n' :: rest)) =
      some ((), ' ' :: (Printer.item e.2 ++ '\n' :: rest)) := rfl
  have item : value (depthLimit - 1) (Printer.item e.2 ++ '\n' :: rest) = some (e.2.value, '\n' :: rest) :=
    value_item (depthLimit - 2) fits rest
  have ended : lineEnd ('\n' :: rest) = some ((), rest) := rfl
  simp only [keyValue, bind_apply, layout, name, equals, skipSpaces_item, item, ended, Option.bind_some,
    add_entry fresh freshKey, pure_apply]

theorem lineStep_entry {e : String × Item} (fresh : name ∉ before.map Prod.fst) (freshKey : e.1 ∉ entries.map Prod.fst)
    (bare : Bare e.1) (fits : e.2.Fits) (rest : List Char) :
    lineStep (draftIn before name entries) (Printer.entry e ++ rest) =
      some (.inl (draftIn before name (entries ++ [e])), rest) := by
  have read := keyValue_entry fresh freshKey bare fits rest
  obtain ⟨tail, layout⟩ : ∃ tail, Printer.entry e ++ rest = e.1.toList ++ tail := by
    simp only [Printer.entry, List.append_assoc]
    exact ⟨_, rfl⟩
  have skipped : skipSpaces (e.1.toList ++ tail) = _ := skipSpaces_bare bare
  obtain ⟨c, cs, eq, front⟩ := bare.cons
  have comment : c ≠ '#' := ne_of_isBareChar front rfl
  have bracket : c ≠ '[' := ne_of_isBareChar front rfl
  have feed : c ≠ '\n' := ne_of_isBareChar front rfl
  have carriage : c ≠ '\r' := ne_of_isBareChar front rfl
  rw [layout, eq, List.cons_append] at read ⊢
  rw [eq, List.cons_append] at skipped
  simp only [lineStep, bind_apply, skipped, Option.bind_some, read, Option.map_some]
  split <;> simp_all

theorem header_table (bare : Bare name) (fresh : name ∉ draft.root.map Prod.fst) (rest : List Char) :
    header draft (name.toList ++ ']' :: '\n' :: rest) = some (draftIn draft.root name [], rest) := by
  have named : key (name.toList ++ ']' :: '\n' :: rest) = some (([], name), ']' :: '\n' :: rest) :=
    key_bare bare (by rintro c ⟨⟩; rfl) (by simp [isSpace])
  have closed : exactly [']'] (']' :: '\n' :: rest) = some ((), '\n' :: rest) := rfl
  have ended : lineEnd ('\n' :: rest) = some ((), rest) := rfl
  have opened : header.opened [] name (draft.root.openTable [] name) = pure (draftIn draft.root name []) := by
    rw [Entries.openTable_fresh fresh]
    rfl
  unfold header
  split
  · rename_i bracket
    exact absurd bracket (bare.append_ne rfl _)
  · simp only [bind_apply, named, closed, ended, opened, Option.bind_some, pure_apply]

theorem lineStep_header (bare : Bare name) (fresh : name ∉ draft.root.map Prod.fst) (rest : List Char) :
    lineStep draft ('[' :: (name.toList ++ ']' :: '\n' :: rest)) = some (.inl (draftIn draft.root name []), rest) := by
  have skipped : skipSpaces ('[' :: (name.toList ++ ']' :: '\n' :: rest)) =
      some ((), '[' :: (name.toList ++ ']' :: '\n' :: rest)) := rfl
  simp only [lineStep, bind_apply, skipped, Option.bind_some, header_table bare fresh rest, Option.map_some]

/-! ## Sections -/

theorem yields_entries {result : Draft} (fresh : name ∉ before.map Prod.fst) (later : List (String × Item))
    (bare : ∀ e ∈ later, Bare e.1) (fits : ∀ e ∈ later, e.2.Fits)
    (distinct : ((entries ++ later).map Prod.fst).Nodup)
    (behind : Yields lineStep (draftIn before name (entries ++ later)) rest result []) :
    Yields lineStep (draftIn before name entries) (later.flatMap Printer.entry ++ rest) result [] := by
  induction later generalizing entries with
  | nil => simpa using behind
  | cons e later ih =>
      have freshKey : e.1 ∉ entries.map Prod.fst := by
        intro member
        rw [List.map_append, List.map_cons] at distinct
        exact (List.nodup_append.1 distinct).2.2 e.1 member e.1 (List.mem_cons_self ..) rfl
      have step := lineStep_entry fresh freshKey (bare e (List.mem_cons_self ..)) (fits e (List.mem_cons_self ..))
        (later.flatMap Printer.entry ++ rest)
      rw [List.flatMap_cons, List.append_assoc]
      refine .next step ?_ ?_
      · simp only [Printer.entry, List.length_append, List.length_cons]
        omega
      · apply ih
        · exact fun e member => bare e (List.mem_cons_of_mem _ member)
        · exact fun e member => fits e (List.mem_cons_of_mem _ member)
        · simpa using distinct
        · simpa using behind

structure Section.Plain (s : Section) : Prop where
  bare : Bare s.1
  keys : ∀ e ∈ s.2, Bare e.1
  distinct : (s.2.map Prod.fst).Nodup
  fits : ∀ e ∈ s.2, e.2.Fits

theorem yields_section {result : Draft} {s : Section} (plain : s.Plain) (fresh : s.1 ∉ draft.root.map Prod.fst)
    (behind : Yields lineStep (draftIn draft.root s.1 s.2) rest result []) :
    Yields lineStep draft (Printer.sectionLines s ++ rest) result [] := by
  have layout : Printer.sectionLines s ++ rest =
      '[' :: (s.1.toList ++ ']' :: '\n' :: (s.2.flatMap Printer.entry ++ rest)) := by
    simp [Printer.sectionLines]
  have lines : Yields lineStep (draftIn draft.root s.1 []) (s.2.flatMap Printer.entry ++ rest) result [] :=
    yields_entries fresh s.2 plain.keys plain.fits plain.distinct behind
  rw [layout]
  refine .next (lineStep_header plain.bare fresh _) ?_ lines
  simp only [List.length_append, List.length_cons]
  omega

theorem yields_document (draft : Draft) (sections : List Section) (plain : ∀ s ∈ sections, s.Plain)
    (distinct : (draft.root.map Prod.fst ++ sections.map Prod.fst).Nodup) :
    ∃ opened, Yields lineStep draft (Printer.document sections)
      ⟨draft.root ++ sections.map fun s => (s.1, sectionNode s.2), opened⟩ [] := by
  induction sections generalizing draft with
  | nil =>
      refine ⟨draft.open?, .done ?_⟩
      simp [lineStep, Printer.document, skipSpaces]
  | cons s sections ih =>
      have here := plain s (List.mem_cons_self ..)
      have fresh : s.1 ∉ draft.root.map Prod.fst :=
        fun member => (List.nodup_append.1 distinct).2.2 s.1 member s.1 (List.mem_cons_self ..) rfl
      obtain ⟨opened, later⟩ := ih (draftIn draft.root s.1 s.2)
        (fun t member => plain t (List.mem_cons_of_mem _ member)) (by simpa [draftIn] using distinct)
      have tables : (draftIn draft.root s.1 s.2).root ++ sections.map (fun s => (s.1, sectionNode s.2)) =
          draft.root ++ (s :: sections).map fun s => (s.1, sectionNode s.2) := by
        simp [draftIn]
      rw [tables] at later
      refine ⟨opened, ?_⟩
      cases sections with
      | nil =>
          have lines := yields_section here fresh later
          simpa [Printer.document] using lines
      | cons t sections =>
          have blank : lineStep (draftIn draft.root s.1 s.2) ('\n' :: Printer.document (t :: sections)) =
              some (.inl (draftIn draft.root s.1 s.2), Printer.document (t :: sections)) := rfl
          have lines := yields_section here fresh (.next blank (by simp) later)
          simpa [Printer.document] using lines

/-! ## Documents -/

def values (entries : List (String × Item)) : List (String × Value) := entries.map fun e => (e.1, e.2.value)

theorem entriesToValues_leaves (entries : List (String × Item)) :
    entriesToValues (entries.map fun e => (e.1, .leaf e.2.value)) = values entries := by
  induction entries with
  | nil => rfl
  | cons e entries ih => simp [entriesToValues, Node.toValue, ih, values]

theorem entriesToValues_sections (sections : List Section) :
    entriesToValues (sections.map fun s => (s.1, sectionNode s.2)) =
      sections.map fun s => (s.1, .table (values s.2)) := by
  induction sections with
  | nil => rfl
  | cons s sections ih =>
      rw [List.map_cons, entriesToValues, ih, sectionNode, Node.toValue, entriesToValues_leaves, List.map_cons]

theorem parse?_document (sections : List Section) (plain : ∀ s ∈ sections, s.Plain)
    (distinct : (sections.map Prod.fst).Nodup) :
    parse? (Printer.document sections) =
      some (sections.map fun s => (s.1, .table (values s.2))) := by
  obtain ⟨opened, lines⟩ := yields_document ⟨[], none⟩ sections plain distinct
  have unmarked : ∀ rest, Printer.document sections ≠ '\ufeff' :: rest := by
    intro rest
    match sections with
    | [] | [_] | _ :: _ :: _ => simp [Printer.document, Printer.sectionLines]
  simp only [parse?, lines.iterate, Option.map_some, List.nil_append, entriesToValues_sections]

end Emplace.Toml
