import Emplace.Files.Disk

namespace Emplace.Files

structure Proper (name : String) : Prop where
  filled : name ≠ ""
  clean : '\x00' ∉ name.toList
  whole : '/' ∉ name.toList
  noSpot : name ≠ "."
  noParent : name ≠ ".."
  short : name.utf8ByteSize ≤ Tree.nameLimit

instance (name : String) : Decidable (Proper name) :=
  decidable_of_iff (name ≠ "" ∧ '\x00' ∉ name.toList ∧ '/' ∉ name.toList ∧ name ≠ "." ∧ name ≠ ".." ∧
      name.utf8ByteSize ≤ Tree.nameLimit)
    ⟨fun ⟨filled, clean, whole, noSpot, noParent, short⟩ => ⟨filled, clean, whole, noSpot, noParent, short⟩,
      fun ⟨filled, clean, whole, noSpot, noParent, short⟩ => ⟨filled, clean, whole, noSpot, noParent, short⟩⟩

namespace Tree

def surface : Tree → Tree
  | .folder _ => .folder []
  | node => node

def stands (root : Tree) (place : Place) : Option Tree := (root.at? place).map surface

def Named (root : Tree) : Prop := ∀ place, (root.at? place).isSome → ∀ name ∈ place, Proper name

variable {root : Tree} {place : Place}

theorem surface_eq_folder_iff {node : Tree} : node.surface = .folder [] ↔ ∃ entries, node = .folder entries := by
  cases node <;> simp [surface]

theorem at?_append (root : Tree) (place rest : Place) :
    root.at? (place ++ rest) = (root.at? place).bind (at? rest) := by
  induction place generalizing root with
  | nil => rfl
  | cons name place ih =>
    cases root with
    | folder entries =>
      simp only [List.cons_append, at?]
      cases entries.lookup name with
      | none => rfl
      | some child => exact ih child
    | _ => rfl

theorem at?_snoc {entries : List (String × Tree)} (found : root.at? place = some (.folder entries)) (name : String) :
    root.at? (place ++ [name]) = entries.lookup name := by
  rw [at?_append, found, Option.bind_some, at?]
  cases entries.lookup name <;> rfl

theorem stands_of_at? {node : Tree} (found : root.at? place = some node) : root.stands place = some node.surface := by
  rw [stands, found, Option.map_some]

theorem stands_eq_none_iff : root.stands place = none ↔ root.at? place = none := Option.map_eq_none_iff

theorem stands_snoc {entries : List (String × Tree)} (found : root.at? place = some (.folder entries)) (name : String) :
    root.stands (place ++ [name]) = (entries.lookup name).map surface := by
  rw [stands, at?_snoc found]

theorem named_folder {entries : List (String × Tree)} (each : ∀ e ∈ entries, Proper e.1 ∧ e.2.Named) :
    (folder entries).Named := by
  intro place stood name member
  cases place with
  | nil => cases member
  | cons first rest =>
    rw [at?] at stood
    split at stood
    · rename_i child held
      obtain ⟨before, after, rfl, -⟩ := List.lookup_eq_some_iff.1 held
      obtain ⟨proper, named⟩ := each (first, child) (List.mem_append_right _ List.mem_cons_self)
      rcases List.mem_cons.1 member with rfl | member
      · exact proper
      · exact named rest stood name member
    · cases stood

theorem named_of_not_folder (other : ∀ entries, root ≠ .folder entries) : root.Named := by
  intro place stood name member
  cases place with
  | nil => cases member
  | cons first rest => cases root <;> first | cases stood | exact absurd rfl (other _)

theorem Named.proper (named : root.Named) {entries : List (String × Tree)}
    (stood : root.at? place = some (.folder entries)) {name : String} {node : Tree}
    (held : entries.lookup name = some node) : Proper name := by
  refine named (place ++ [name]) ?_ name (List.mem_append_right _ List.mem_cons_self)
  rw [at?_snoc stood, held]
  rfl

theorem resolve_nil (root : Tree) (last : LastLink) (links : Nat) (here : Place) :
    root.resolve last links here [] = .ok here := by
  cases links <;> rfl

theorem resolve_cons (root : Tree) (last : LastLink) (links : Nat) (here : Place) (name : String)
    (rest : List String) :
    root.resolve last links here (name :: rest) =
      match root.stands here with
      | none => .error .noSuchFile
      | some (.folder _) =>
        if name = "." then root.resolve last links here rest
        else if name = ".." then root.resolve last links here.dropLast rest
        else if nameLimit < name.utf8ByteSize then .error .nameTooLong
        else
          match root.stands (here ++ [name]) with
          | none => if rest.isEmpty then .ok (here ++ [name]) else .error .noSuchFile
          | some (.link target) =>
            if rest.isEmpty && last = .kept then .ok (here ++ [name])
            else
              match links with
              | 0 => .error .tooManyLinks
              | links + 1 => root.resolve last links (if isAbsolute target then [] else here) (steps target ++ rest)
          | some _ => root.resolve last links (here ++ [name]) rest
      | some _ => .error .notADirectory := by
  cases found : root.at? here with
  | none =>
    rw [stands_eq_none_iff.2 found]
    cases links <;> simp only [resolve, resolveWith, found]
  | some node =>
    rw [stands_of_at? found]
    cases node with
    | folder entries =>
      simp only [surface, stands_snoc found]
      cases held : entries.lookup name with
      | none => cases links <;> simp only [resolve, resolveWith, found, held, Option.map_none]
      | some child =>
        cases child <;> cases links <;> simp only [resolve, resolveWith, found, held, Option.map_some, surface]
    | _ => cases links <;> simp only [resolve, resolveWith, found, surface]

theorem resolve_spot (root : Tree) (last : LastLink) {rest : List String} (more : rest ≠ []) :
    ∀ (links : Nat) (here : Place) (names : List String),
      root.resolve last links here (names ++ "." :: rest) = root.resolve last links here (names ++ rest)
  | links, here, [] => by
    obtain ⟨next, rest, rfl⟩ := List.exists_cons_of_ne_nil more
    rw [List.nil_append, List.nil_append, resolve_cons]
    split
    · rename_i nowhere
      simp only [resolve_cons, nowhere]
    · rw [if_pos rfl]
    · rename_i other stood
      simp only [resolve_cons, stood]
  | links, here, name :: names => by
    have onSpot := resolve_spot root last more links here names
    have up := resolve_spot root last more links here.dropLast names
    have down := resolve_spot root last more links (here ++ [name]) names
    have filled : (names ++ rest).isEmpty = false := by simp [more]
    have filled' : (names ++ "." :: rest).isEmpty = false := by simp
    rw [List.cons_append, List.cons_append, resolve_cons, resolve_cons, filled, filled', onSpot, up, down]
    cases links with
    | zero => rfl
    | succ links =>
      have along (target : String) := resolve_spot root last more links (if isAbsolute target then [] else here)
        (steps target ++ names)
      simp only [List.append_assoc] at along
      simp only [along]
termination_by links _ names => (links, names.length)

theorem resolve_append (root : Tree) {place : Place} (stood : (root.at? place).isSome) :
    ∀ (links : Nat) (here : Place) (names : List String), root.resolve .followed links here names = .ok place →
      ∃ left, ∀ rest, rest ≠ [] →
        root.resolve .followed links here (names ++ rest) = root.resolve .followed left place rest
  | links, here, [], resolved => by
    rw [resolve_nil, Except.ok.injEq] at resolved
    exact ⟨links, fun rest _ => by rw [List.nil_append, resolved]⟩
  | links, here, name :: names, resolved => by
    rw [resolve_cons] at resolved
    simp only [List.cons_append, resolve_cons root .followed links here name]
    cases standing : root.stands here with
    | none => simp only [standing, reduceCtorEq] at resolved
    | some node =>
      cases node with
      | folder held =>
        simp only [standing] at resolved ⊢
        by_cases spot : name = "."
        · simp only [if_pos spot] at resolved ⊢
          exact resolve_append root stood links here names resolved
        by_cases parent : name = ".."
        · simp only [if_neg spot, if_pos parent] at resolved ⊢
          exact resolve_append root stood links here.dropLast names resolved
        by_cases long : nameLimit < name.utf8ByteSize
        · simp only [if_neg spot, if_neg parent, if_pos long, reduceCtorEq] at resolved
        simp only [if_neg spot, if_neg parent, if_neg long] at resolved ⊢
        cases next : root.stands (here ++ [name]) with
        | none =>
          -- A last name that is missing is led to all the same, but nothing stands there.
          have missing := stands_eq_none_iff.1 next
          simp only [next] at resolved
          split at resolved
          · cases resolved
            rw [missing] at stood
            cases stood
          · cases resolved
        | some node =>
          cases node with
          | link target =>
            simp only [next, reduceCtorEq, decide_false, Bool.and_false, Bool.false_eq_true, if_false] at resolved ⊢
            cases links with
            | zero => cases resolved
            | succ links =>
              simp only [← List.append_assoc]
              exact resolve_append root stood links _ (steps target ++ names) resolved
          | _ =>
            simp only [next] at resolved ⊢
            exact resolve_append root stood links (here ++ [name]) names resolved
      | _ => simp only [standing, reduceCtorEq] at resolved
termination_by links _ names => (links, names.length)

theorem resolve_proper {entries : List (String × Tree)} (stood : root.at? place = some (.folder entries))
    {name : String} {node : Tree} (held : entries.lookup name = some node) (proper : Proper name)
    (plain : ∀ target, node ≠ .link target) (links : Nat) :
    root.resolve .followed links place [name] = .ok (place ++ [name]) := by
  rw [resolve_cons, stands_of_at? stood]
  simp only [surface, if_neg proper.noSpot, if_neg proper.noParent, if_neg (Nat.not_lt.2 proper.short),
    stands_snoc stood, held, Option.map_some]
  cases node with
  | link target => exact absurd rfl (plain target)
  | _ => rw [resolve_nil]

end Tree

end Emplace.Files
