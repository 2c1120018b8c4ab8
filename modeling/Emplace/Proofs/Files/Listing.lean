import Emplace.Files.Walk
import Emplace.Proofs.Files.Resolving

namespace Emplace.Files

theorem components_slash (front rest : String) :
    components (front ++ "/" ++ rest) = components front ++ components rest := by
  have split : (front ++ "/" ++ rest).toList.splitOn '/' = front.toList.splitOn '/' ++ rest.toList.splitOn '/' := by
    rw [String.toList_append, String.toList_append, List.append_assoc]
    exact List.splitOn_append_cons_self _ _
  rw [components, components, components, split, List.filter_append, List.map_append]

theorem components_of_proper {name : String} (proper : Proper name) : components name = [name] := by
  have filled : name.toList ≠ [] := by simpa using proper.filled
  rw [components, List.splitOn_eq_singleton proper.whole]
  simp [filled]

theorem endsInSlash_iff {path : String} : endsInSlash path = true ↔ ∃ front, path = front ++ "/" := by
  rw [endsInSlash, beq_iff_eq, List.getLast?_eq_some_iff]
  constructor
  · rintro ⟨front, split⟩
    exact ⟨String.ofList front, by rw [← String.toList_inj]; simpa using split⟩
  · rintro ⟨front, rfl⟩
    exact ⟨front.toList, by simp⟩

variable {path name : String}

theorem components_join (proper : Proper name) (path : String) :
    components (join path name) = components path ++ [name] := by
  rw [join]
  split
  · rename_i slashed
    obtain ⟨front, rfl⟩ := endsInSlash_iff.1 slashed
    have closed : components (front ++ "/") = components front := by
      simpa [components] using components_slash front ""
    rw [components_slash, components_of_proper proper, closed]
  · rw [components_slash, components_of_proper proper]

theorem exists_join (path name : String) : ∃ between, join path name = path ++ between ++ name := by
  rw [join]
  split
  · exact ⟨"", by simp⟩
  · exact ⟨"/", rfl⟩

theorem steps_join (proper : Proper name) (path : String) : steps (join path name) = components path ++ [name] := by
  have unslashed : ¬endsInSlash (join path name) := by
    obtain ⟨between, split⟩ := exists_join path name
    cases last : name.toList.getLast? with
    | none => exact absurd (String.toList_eq_nil_iff.1 (List.getLast?_eq_none_iff.1 last)) proper.filled
    | some c =>
      rw [endsInSlash, beq_iff_eq, split, String.toList_append, List.getLast?_append, last, Option.some_or]
      rintro ⟨⟩
      exact proper.whole (List.mem_of_getLast? last)
  rw [steps, components_join proper, if_neg unslashed, List.append_nil]

theorem longer_join (proper : Proper name) (path : String) :
    path.utf8ByteSize < (join path name).utf8ByteSize := by
  have filled : 0 < name.utf8ByteSize := Nat.pos_of_ne_zero (mt String.utf8ByteSize_eq_zero_iff.1 proper.filled)
  have slash : "/".utf8ByteSize = 1 := by decide
  rw [join]
  split <;> simp only [String.utf8ByteSize_append] <;> omega

theorem clean_join (clean : '\x00' ∉ path.toList) (proper : Proper name) : '\x00' ∉ (join path name).toList := by
  rw [join]
  split <;> simp [clean, proper.clean]

def sorted (entries : List (String × Tree)) : List (String × Tree) :=
  entries.foldr (fun e listed => Roster.insertEntry e.1 e.2 listed) []

theorem ascending_sorted (entries : List (String × Tree)) :
    (sorted entries).Pairwise (fun a b => a.1 < b.1) := by
  induction entries with
  | nil => exact .nil
  | cons e entries ih => exact Roster.ascending_insertEntry e.1 e.2 ih

theorem lookup_sorted (entries : List (String × Tree)) (name : String) :
    (sorted entries).lookup name = entries.lookup name := by
  induction entries with
  | nil => rfl
  | cons e entries ih =>
    rw [sorted, List.foldr_cons, ← sorted, Roster.lookup_insertEntry, ih, Roster.lookup_cons]

theorem mem_sorted_iff {entries : List (String × Tree)} {name : String} {node : Tree} :
    (name, node) ∈ sorted entries ↔ entries.lookup name = some node := by
  have mem := Roster.mem_iff_get? ⟨sorted entries, ascending_sorted entries⟩ name node
  rwa [Roster.get?, lookup_sorted] at mem

namespace Disk

variable {disk : Disk} {path : String} {place : Place}

theorem list_of_folder {entries : List (String × Tree)} (found : disk.find path = .ok (place, .folder entries)) :
    disk.list path = .ok (sorted entries) := by
  rw [list, found]
  rfl

theorem list_of_error {cause : SystemError} (missed : disk.find path = .error cause) :
    disk.list path = .error cause := by
  rw [list, missed]

theorem find_eq_ok_iff {node : Tree} : disk.find path = .ok (place, node) ↔
    '\x00' ∉ path.toList ∧ path ≠ "" ∧ path.utf8ByteSize < pathLimit ∧
      disk.root.resolve .followed Tree.linkLimit (disk.start path) (steps path) = .ok place ∧
      disk.root.at? place = some node := by
  rw [find, locate]
  by_cases nul : '\x00' ∈ path.toList
  · simp [nul]
  by_cases empty : path = ""
  · simp [empty]
  by_cases long : pathLimit ≤ path.utf8ByteSize
  · simp [nul, empty, long, Nat.not_lt.2 long]
  simp only [List.contains_iff_mem, if_neg nul, if_neg empty, if_neg long]
  cases disk.root.resolve .followed Tree.linkLimit (disk.start path) (steps path) with
  | error cause => simp
  | ok place' =>
    cases stood : disk.root.at? place' with
    | none =>
      simp only [stood]
      refine ⟨nofun, ?_⟩
      rintro ⟨-, -, -, same, stood'⟩
      cases same
      cases stood.symm.trans stood'
    | some node' =>
      simp only [stood]
      constructor
      · intro same
        cases same
        exact ⟨nul, empty, Nat.not_le.1 long, rfl, stood⟩
      · rintro ⟨-, -, -, same, stood'⟩
        cases same
        cases stood.symm.trans stood'
        rfl

theorem at?_of_find {node : Tree} (found : disk.find path = .ok (place, node)) : disk.root.at? place = some node :=
  (find_eq_ok_iff.1 found).2.2.2.2

theorem start_join (filled : path ≠ "") (name : String) : disk.start (join path name) = disk.start path := by
  obtain ⟨between, split⟩ := exists_join path name
  have front : (path.toList ++ between.toList ++ name.toList).head? = path.toList.head? := by
    cases chars : path.toList with
    | nil => exact absurd (String.toList_eq_nil_iff.1 chars) filled
    | cons c cs => rfl
  rw [start, start, isAbsolute, isAbsolute, split, String.toList_append, String.toList_append, front]

theorem find_join {entries : List (String × Tree)} (found : disk.find path = .ok (place, .folder entries))
    {name : String} {node : Tree} (held : entries.lookup name = some node) (proper : Proper name)
    (plain : ∀ target, node ≠ .link target) (short : (join path name).utf8ByteSize < pathLimit) :
    disk.find (join path name) = .ok (place ++ [name], node) := by
  obtain ⟨clean, filled, -, resolved, stood⟩ := find_eq_ok_iff.1 found
  have longer := longer_join proper path
  refine find_eq_ok_iff.2 ⟨clean_join clean proper, ?_, short, ?_, ?_⟩
  · intro empty
    rw [empty] at longer
    exact absurd longer (Nat.not_lt_zero _)
  · obtain ⟨left, led⟩ := Tree.resolve_append disk.root (stood ▸ rfl) _ _ _ resolved
    have through : disk.root.resolve .followed Tree.linkLimit (disk.start path) (components path ++ [name]) =
        disk.root.resolve .followed Tree.linkLimit (disk.start path) (steps path ++ [name]) := by
      rw [steps]
      split
      · rw [List.append_assoc]
        exact (Tree.resolve_spot disk.root .followed (List.cons_ne_nil name []) _ _ _).symm
      · rw [List.append_nil]
    rw [start_join filled, steps_join proper, through, led [name] (List.cons_ne_nil name [])]
    exact Tree.resolve_proper stood held proper plain left
  · rw [Tree.at?_snoc stood, held]

theorem find_of_long (clean : '\x00' ∉ path.toList) (long : pathLimit ≤ path.utf8ByteSize) :
    disk.find path = .error .nameTooLong := by
  have filled : path ≠ "" := by
    rintro rfl
    exact absurd long (by decide)
  simp [find, locate, clean, long, filled]

end Disk

def arrive (enter : String → Except WalkError (List String)) (path : String) : Tree → Except WalkError (List String)
  | .folder _ => enter path
  | .file _ => .ok [path]
  | _ => .ok []

variable {disk : Disk} {enter : String → Except WalkError (List String)} {above : List Ancestor} {path : String}

theorem visit_link (target : String) :
    visit disk enter above path (.link target) = (follow disk above path).bind (arrive enter path) := rfl

theorem visit_of_not_link {node : Tree} (plain : ∀ target, node ≠ .link target) :
    visit disk enter above path node = arrive enter path node := by
  cases node with
  | link target => exact absurd rfl (plain target)
  | _ => rfl

theorem walk_eq_bind (disk : Disk) (path : String) :
    walk disk path = (follow disk [] path).bind (visit disk (walkWithin disk Disk.pathLimit []) [] path) := rfl

end Emplace.Files
