/-!
# Rosters

A roster maps names to values and lists them in ascending order of the names. `get?` is its view: every
operation is described by what it does to `get?`, and two rosters with the same view are equal
(`ext_get?`).
-/

namespace Emplace

structure Roster (α : Type) where
  entries : List (String × α)
  ascending : entries.Pairwise (fun a b => a.1 < b.1)

namespace Roster

variable {α : Type}

def empty : Roster α := ⟨[], .nil⟩

instance : Inhabited (Roster α) := ⟨empty⟩
instance : EmptyCollection (Roster α) := ⟨empty⟩

def names (r : Roster α) : List String := r.entries.map Prod.fst

def values (r : Roster α) : List α := r.entries.map Prod.snd

def size (r : Roster α) : Nat := r.entries.length

def isEmpty (r : Roster α) : Bool := r.entries.isEmpty

def get? (r : Roster α) (name : String) : Option α := r.entries.lookup name

def contains (r : Roster α) (name : String) : Bool := (r.get? name).isSome

def insertEntry (name : String) (value : α) : List (String × α) → List (String × α)
  | [] => [(name, value)]
  | entry :: rest =>
    if name < entry.1 then (name, value) :: entry :: rest
    else if name = entry.1 then (name, value) :: rest
    else entry :: insertEntry name value rest

theorem mem_insertEntry {name : String} {value : α} {entries : List (String × α)} {e : String × α}
    (mem : e ∈ insertEntry name value entries) : e = (name, value) ∨ e ∈ entries := by
  induction entries with
  | nil => exact .inl (List.mem_singleton.1 mem)
  | cons entry rest ih =>
    rw [insertEntry] at mem
    split at mem
    · exact List.mem_cons.1 mem
    · split at mem
      · exact (List.mem_cons.1 mem).imp_right (List.mem_cons_of_mem _)
      · rcases List.mem_cons.1 mem with rfl | later
        · exact .inr List.mem_cons_self
        · exact (ih later).imp_right (List.mem_cons_of_mem _)

theorem lt_of_not_lt_of_ne {a b : String} (notLess : ¬a < b) (ne : a ≠ b) : b < a := by
  have le : b ≤ a := String.not_lt.1 notLess
  by_cases less : b < a
  · exact less
  · exact absurd (String.le_antisymm (String.not_lt.1 less) le) ne

theorem ascending_insertEntry (name : String) (value : α) {entries : List (String × α)}
    (ascending : entries.Pairwise fun a b => a.1 < b.1) :
    (insertEntry name value entries).Pairwise fun a b => a.1 < b.1 := by
  induction entries with
  | nil => exact List.pairwise_singleton ..
  | cons entry rest ih =>
    obtain ⟨first, later⟩ := List.pairwise_cons.1 ascending
    rw [insertEntry]
    split
    · rename_i less
      refine List.pairwise_cons.2 ⟨fun e mem => ?_, ascending⟩
      rcases List.mem_cons.1 mem with rfl | mem
      · exact less
      · exact String.lt_trans less (first e mem)
    · rename_i notLess
      split
      · rename_i same
        exact List.pairwise_cons.2 ⟨fun e mem => same ▸ first e mem, later⟩
      · rename_i ne
        refine List.pairwise_cons.2 ⟨fun e mem => ?_, ih later⟩
        rcases mem_insertEntry mem with rfl | mem
        · exact lt_of_not_lt_of_ne notLess ne
        · exact first e mem

def insert (r : Roster α) (name : String) (value : α) : Roster α :=
  ⟨insertEntry name value r.entries, ascending_insertEntry name value r.ascending⟩

def filter (p : String → α → Bool) (r : Roster α) : Roster α :=
  ⟨r.entries.filter fun e => p e.1 e.2, r.ascending.filter _⟩

def erase (r : Roster α) (name : String) : Roster α :=
  r.filter fun n _ => n != name

@[simp] theorem get?_empty (name : String) : (empty : Roster α).get? name = none := rfl

theorem lookup_cons (n : String) (v : α) (rest : List (String × α)) (name : String) :
    ((n, v) :: rest).lookup name = if name = n then some v else rest.lookup name := by
  by_cases same : name = n
  · subst same
    rw [List.lookup_cons_self, if_pos rfl]
  · rw [List.lookup_cons, beq_eq_false_iff_ne.2 same, if_neg same]

theorem lookup_insertEntry (name : String) (value : α) (entries : List (String × α)) (other : String) :
    (insertEntry name value entries).lookup other = if other = name then some value else entries.lookup other := by
  induction entries with
  | nil => exact lookup_cons name value [] other
  | cons entry rest ih =>
    obtain ⟨n, v⟩ := entry
    rw [insertEntry]
    split
    · exact lookup_cons name value _ other
    · split
      · rename_i same
        subst same
        rw [lookup_cons, lookup_cons]
        split <;> rfl
      · rename_i ne
        rw [lookup_cons, lookup_cons, ih]
        by_cases same : other = name
        · subst same
          rw [if_neg ne, if_pos rfl, if_pos rfl]
        · rw [if_neg same, if_neg same]

theorem get?_insert (r : Roster α) (name : String) (value : α) (other : String) :
    (r.insert name value).get? other = if other = name then some value else r.get? other :=
  lookup_insertEntry name value r.entries other

@[simp] theorem get?_insert_self (r : Roster α) (name : String) (value : α) :
    (r.insert name value).get? name = some value := by
  rw [get?_insert, if_pos rfl]

theorem lookup_eq_none_of_forall_ne {entries : List (String × α)} {name : String}
    (others : ∀ e ∈ entries, e.1 ≠ name) : entries.lookup name = none :=
  List.lookup_eq_none_iff.2 fun e mem => bne_iff_ne.2 (others e mem).symm

theorem lookup_filter {entries : List (String × α)} (ascending : entries.Pairwise fun a b => a.1 < b.1)
    (p : String → α → Bool) (name : String) :
    (entries.filter fun e => p e.1 e.2).lookup name = (entries.lookup name).filter (p name) := by
  induction entries with
  | nil => rfl
  | cons entry rest ih =>
    obtain ⟨n, v⟩ := entry
    obtain ⟨first, later⟩ := List.pairwise_cons.1 ascending
    rw [lookup_cons, List.filter_cons]
    by_cases same : name = n
    · subst same
      -- No later entry has the name, so that a dropped first one leaves none.
      have absent : rest.lookup name = none :=
        lookup_eq_none_of_forall_ne fun e mem same => String.lt_irrefl name (same ▸ first e mem)
      rw [if_pos rfl, Option.filter_some]
      split
      · exact List.lookup_cons_self ..
      · rw [ih later, absent, Option.filter_none]
    · rw [if_neg same, ← ih later]
      split
      · rw [lookup_cons, if_neg same]
      · rfl

theorem get?_filter (r : Roster α) (p : String → α → Bool) (name : String) :
    (r.filter p).get? name = (r.get? name).filter (p name) :=
  lookup_filter r.ascending p name

theorem get?_erase (r : Roster α) (name other : String) :
    (r.erase name).get? other = if other = name then none else r.get? other := by
  rw [erase, get?_filter]
  by_cases same : other = name
  · rw [if_pos same, Option.filter_eq_none_iff]
    exact fun _ _ kept => bne_iff_ne.1 kept same
  · rw [if_neg same]
    cases r.get? other with
    | none => rfl
    | some v => exact Option.filter_some_pos (bne_iff_ne.2 same)

theorem mem_iff_get? (r : Roster α) (name : String) (value : α) :
    (name, value) ∈ r.entries ↔ r.get? name = some value := by
  obtain ⟨entries, ascending⟩ := r
  change _ ↔ entries.lookup name = some value
  induction entries with
  | nil => exact iff_of_false List.not_mem_nil (fun found => nomatch found)
  | cons entry rest ih =>
    obtain ⟨n, v⟩ := entry
    obtain ⟨first, later⟩ := List.pairwise_cons.1 ascending
    rw [lookup_cons, List.mem_cons, Prod.mk.injEq]
    by_cases same : name = n
    · subst same
      have absent : (name, value) ∉ rest := fun mem => String.lt_irrefl name (first _ mem)
      rw [if_pos rfl, Option.some.injEq, eq_comm (a := value)]
      exact ⟨fun mem => (mem.resolve_right absent).2, fun found => .inl ⟨rfl, found⟩⟩
    · rw [if_neg same, ← ih later]
      exact ⟨fun mem => mem.resolve_left fun first => same first.1, .inr⟩

theorem mem_names_iff (r : Roster α) (name : String) : name ∈ r.names ↔ (r.get? name).isSome = true := by
  rw [names, List.mem_map, Option.isSome_iff_exists]
  constructor
  · rintro ⟨⟨n, v⟩, mem, rfl⟩
    exact ⟨v, (mem_iff_get? r n v).1 mem⟩
  · rintro ⟨v, found⟩
    exact ⟨(name, v), (mem_iff_get? r name v).2 found, rfl⟩

theorem ascending_names (r : Roster α) : r.names.Pairwise (· < ·) :=
  List.pairwise_map.2 r.ascending

theorem entries_eq_of_get? {xs ys : List (String × α)} (ascending : xs.Pairwise fun a b => a.1 < b.1)
    (ascending' : ys.Pairwise fun a b => a.1 < b.1) (same : ∀ e, e ∈ xs ↔ e ∈ ys) : xs = ys := by
  induction xs generalizing ys with
  | nil => exact (List.eq_nil_iff_forall_not_mem.2 fun y mem => List.not_mem_nil ((same y).2 mem)).symm
  | cons x xs ih =>
    cases ys with
    | nil => exact absurd ((same x).1 List.mem_cons_self) List.not_mem_nil
    | cons y ys =>
      obtain ⟨first, later⟩ := List.pairwise_cons.1 ascending
      obtain ⟨first', later'⟩ := List.pairwise_cons.1 ascending'
      -- The first entries are the least ones of both lists.
      have heads : x = y := by
        rcases List.mem_cons.1 ((same x).1 List.mem_cons_self) with eq | mem
        · exact eq
        · rcases List.mem_cons.1 ((same y).2 List.mem_cons_self) with eq | mem'
          · exact eq.symm
          · exact absurd (first y mem') (String.lt_asymm (first' x mem))
      subst heads
      refine congrArg (x :: ·) (ih later later' fun e => ?_)
      constructor
      · intro mem
        rcases List.mem_cons.1 ((same e).1 (List.mem_cons_of_mem _ mem)) with rfl | mem'
        · exact absurd (first e mem) (String.lt_irrefl _)
        · exact mem'
      · intro mem
        rcases List.mem_cons.1 ((same e).2 (List.mem_cons_of_mem _ mem)) with rfl | mem'
        · exact absurd (first' e mem) (String.lt_irrefl _)
        · exact mem'

theorem ext_get? {r s : Roster α} (same : ∀ name, r.get? name = s.get? name) : r = s := by
  have entries : r.entries = s.entries := by
    refine entries_eq_of_get? r.ascending s.ascending ?_
    rintro ⟨name, value⟩
    rw [mem_iff_get?, mem_iff_get?, same]
  cases r
  cases s
  cases entries
  rfl

end Roster

end Emplace
