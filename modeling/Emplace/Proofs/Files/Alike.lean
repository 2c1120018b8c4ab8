import Emplace.Proofs.Files.Listing

namespace Emplace.Files

namespace Tree

def Alike (root other : Tree) : Prop := ∀ place, root.stands place = other.stands place

variable {root other : Tree}

theorem alike_folder {entries entries' : List (String × Tree)}
    (same : ∀ name, entries.lookup name = entries'.lookup name) : (folder entries).Alike (folder entries') := by
  intro place
  cases place with
  | nil => rfl
  | cons name rest => rw [stands, stands, at?, at?, same]

namespace Alike

theorem resolve_eq (alike : Alike root other) (last : LastLink) :
    ∀ (links : Nat) (here : Place) (names : List String),
      root.resolve last links here names = other.resolve last links here names
  | links, here, [] => by rw [resolve_nil, resolve_nil]
  | links, here, name :: rest => by
    rw [resolve_cons, resolve_cons, alike here, alike (here ++ [name])]
    have onSpot := alike.resolve_eq last links here rest
    have up := alike.resolve_eq last links here.dropLast rest
    have down := alike.resolve_eq last links (here ++ [name]) rest
    rw [onSpot, up, down]
    cases links with
    | zero => rfl
    | succ links =>
      have along (target : String) := alike.resolve_eq last links (if isAbsolute target then [] else here)
        (steps target ++ rest)
      simp only [along]
termination_by links _ names => (links, names.length)

end Alike

end Tree

theorem mapM_eq_of_map_eq {α β γ ε : Type} {f f' : α → Except ε β} {view : α → γ}
    (each : ∀ a a', view a = view a' → f a = f' a') {l l' : List α} (same : l.map view = l'.map view) :
    l.mapM f = l'.mapM f' := by
  induction l generalizing l' with
  | nil =>
    cases l' with
    | nil => rfl
    | cons a' l' => cases same
  | cons a l ih =>
    cases l' with
    | nil => cases same
    | cons a' l' =>
      obtain ⟨first, rest⟩ := List.cons.inj same
      rw [List.mapM_cons, List.mapM_cons, each a a' first, ih rest]

structure Disk.Alike (disk other : Disk) : Prop where
  root : disk.root.Alike other.root
  working : disk.working = other.working

namespace Disk.Alike

variable {disk other : Disk}

theorem locate_eq (alike : disk.Alike other) (last : Tree.LastLink) (path : String) :
    disk.locate last path = other.locate last path := by
  rw [locate, locate, start, start, alike.working, alike.root.resolve_eq]

theorem find_eq (alike : disk.Alike other) (path : String) :
    (disk.find path).map (Prod.map id Tree.surface) = (other.find path).map (Prod.map id Tree.surface) := by
  rw [find, find, alike.locate_eq]
  cases other.locate .followed path with
  | error cause => rfl
  | ok place =>
    have same := alike.root place
    rw [Tree.stands, Tree.stands] at same
    cases mine : disk.root.at? place <;> cases theirs : other.root.at? place <;>
      simp_all [Except.map, Prod.map]

theorem find_of_find (alike : disk.Alike other) {path : String} {place : Place} {node : Tree}
    (found : disk.find path = .ok (place, node)) :
    ∃ node', other.find path = .ok (place, node') ∧ node'.surface = node.surface := by
  have same := alike.find_eq path
  rw [found] at same
  cases theirs : other.find path with
  | error cause => simp [theirs, Except.map] at same
  | ok standing =>
    obtain ⟨place', node'⟩ := standing
    simp only [theirs, Except.map, Prod.map, id, Except.ok.injEq, Prod.mk.injEq] at same
    exact ⟨node', by rw [same.1], same.2.symm⟩

theorem find_of_error (alike : disk.Alike other) {path : String} {cause : SystemError}
    (missed : disk.find path = .error cause) : other.find path = .error cause := by
  have same := alike.find_eq path
  rw [missed] at same
  cases theirs : other.find path with
  | error cause' => simpa [theirs, Except.map, eq_comm] using same
  | ok standing => simp [theirs, Except.map] at same

theorem sorted_eq (alike : disk.Alike other) {place : Place} {entries entries' : List (String × Tree)}
    (mine : disk.root.at? place = some (.folder entries)) (theirs : other.root.at? place = some (.folder entries')) :
    (sorted entries).map (Prod.map id Tree.surface) = (sorted entries').map (Prod.map id Tree.surface) := by
  have ascending (entries : List (String × Tree)) :
      ((sorted entries).map (Prod.map id Tree.surface)).Pairwise (fun a b => a.1 < b.1) :=
    List.pairwise_map.2 (ascending_sorted entries)
  have mem {root : Tree} {entries : List (String × Tree)} (stood : root.at? place = some (.folder entries))
      (e : String × Tree) : e ∈ (sorted entries).map (Prod.map id Tree.surface) ↔
        root.stands (place ++ [e.1]) = some e.2 := by
    rw [Tree.stands_snoc stood, Option.map_eq_some_iff, List.mem_map]
    constructor
    · rintro ⟨⟨name, node⟩, member, rfl⟩
      exact ⟨node, mem_sorted_iff.1 member, rfl⟩
    · rintro ⟨node, held, same⟩
      exact ⟨(e.1, node), mem_sorted_iff.2 held, Prod.ext rfl same⟩
  apply Roster.entries_eq_of_get? (ascending entries) (ascending entries')
  intro e
  rw [mem mine, mem theirs, alike.root]

theorem list_eq (alike : disk.Alike other) (path : String) :
    (disk.list path).map (List.map (Prod.map id Tree.surface)) =
      (other.list path).map (List.map (Prod.map id Tree.surface)) := by
  cases mine : disk.find path with
  | error cause => rw [list_of_error mine, list_of_error (alike.find_of_error mine)]
  | ok standing =>
    obtain ⟨place, node⟩ := standing
    obtain ⟨node', theirs, same⟩ := alike.find_of_find mine
    cases node with
    | folder entries =>
      obtain ⟨entries', rfl⟩ := Tree.surface_eq_folder_iff.1 same
      rw [list_of_folder mine, list_of_folder theirs]
      exact congrArg Except.ok (alike.sorted_eq (at?_of_find mine) (at?_of_find theirs))
    | _ => cases node' <;> simp_all [list, Tree.surface]

theorem follow_eq (alike : disk.Alike other) (above : List Ancestor) (path : String) :
    (follow disk above path).map Tree.surface = (follow other above path).map Tree.surface := by
  cases mine : disk.find path with
  | error cause => rw [follow, follow, mine, alike.find_of_error mine]
  | ok standing =>
    obtain ⟨place, node⟩ := standing
    obtain ⟨node', theirs, same⟩ := alike.find_of_find mine
    rw [follow, follow, mine, theirs]
    cases node <;> cases node' <;> simp_all [Tree.surface]
    cases above.lookup place <;> rfl

theorem arrive_eq {enter enter' : String → Except WalkError (List String)} {path : String}
    (entered : enter path = enter' path) {node node' : Tree} (same : node.surface = node'.surface) :
    arrive enter path node = arrive enter' path node' := by
  cases node <;> cases node' <;> simp_all [Tree.surface, arrive]

theorem visit_eq (alike : disk.Alike other) {enter enter' : String → Except WalkError (List String)}
    {path : String} (entered : enter path = enter' path) (above : List Ancestor) {node node' : Tree}
    (same : node.surface = node'.surface) :
    visit disk enter above path node = visit other enter' above path node' := by
  by_cases linked : ∃ target, node = .link target
  · obtain ⟨target, rfl⟩ := linked
    obtain ⟨target', rfl⟩ : ∃ target', node' = .link target' := by cases node' <;> simp_all [Tree.surface]
    rw [visit_link, visit_link]
    have followed := alike.follow_eq above path
    cases mine : follow disk above path <;> cases theirs : follow other above path <;>
      simp only [mine, theirs, Except.map, reduceCtorEq, Except.ok.injEq, Except.error.injEq] at followed
    · rw [followed]
      rfl
    · exact arrive_eq entered followed
  · have linked' : ¬∃ target, node' = .link target := by
      rintro ⟨target, rfl⟩
      cases node <;> simp_all [Tree.surface]
    rw [visit_of_not_link (not_exists.1 linked), visit_of_not_link (not_exists.1 linked'), arrive_eq entered same]

theorem walkWithin_eq (alike : disk.Alike other) (bound : Nat) (above : List Ancestor) (path : String) :
    walkWithin disk bound above path = walkWithin other bound above path := by
  induction bound generalizing above path with
  | zero => rfl
  | succ bound ih =>
    rw [walkWithin, walkWithin]
    cases mine : disk.find path with
    | error cause => rw [alike.find_of_error mine]
    | ok standing =>
      obtain ⟨place, node⟩ := standing
      obtain ⟨node', theirs, -⟩ := alike.find_of_find mine
      rw [theirs]
      have listings := alike.list_eq path
      cases listed : disk.list path <;> cases listed' : other.list path <;>
        simp only [listed, listed', Except.map, reduceCtorEq, Except.ok.injEq, Except.error.injEq] at listings
      · rw [listings]
      · refine congrArg (Except.map List.flatten) (mapM_eq_of_map_eq ?_ listings)
        rintro ⟨name, node⟩ ⟨name', node'⟩ same
        obtain ⟨rfl, shown⟩ := Prod.mk.inj same
        exact alike.visit_eq (ih ((place, path) :: above) _) _ shown

theorem read_eq (alike : disk.Alike other) (path : String) : disk.read path = other.read path := by
  cases mine : disk.find path with
  | error cause => rw [read, read, mine, alike.find_of_error mine]
  | ok standing =>
    obtain ⟨place, node⟩ := standing
    obtain ⟨node', theirs, same⟩ := alike.find_of_find mine
    rw [read, read, mine, theirs]
    cases node <;> cases node' <;> simp_all [Tree.surface]

theorem bind_visit_eq (alike : disk.Alike other) {enter enter' : String → Except WalkError (List String)}
    {path : String} (entered : enter path = enter' path) :
    (follow disk [] path).bind (visit disk enter [] path) =
      (follow other [] path).bind (visit other enter' [] path) := by
  have followed := alike.follow_eq [] path
  cases mine : follow disk [] path <;> cases theirs : follow other [] path <;>
    simp only [mine, theirs, Except.map, reduceCtorEq, Except.ok.injEq, Except.error.injEq] at followed
  · rw [followed]
    rfl
  · exact alike.visit_eq entered [] followed

theorem walk_eq (alike : disk.Alike other) (path : String) : walk disk path = walk other path := by
  rw [walk_eq_bind, walk_eq_bind]
  exact alike.bind_visit_eq (alike.walkWithin_eq Disk.pathLimit [] path)

theorem pathExists_eq (alike : disk.Alike other) (path : String) : disk.pathExists path = other.pathExists path := by
  cases mine : disk.find path with
  | error cause => rw [pathExists, pathExists, mine, alike.find_of_error mine]
  | ok standing =>
    obtain ⟨node', theirs, -⟩ := alike.find_of_find mine
    rw [pathExists, pathExists, mine, theirs]
    rfl

theorem services_eq (alike : disk.Alike other) (path : String) : loadServices disk path = loadServices other path := by
  have described : descriptorAt? disk = descriptorAt? other := by
    funext path
    rw [descriptorAt?, descriptorAt?, alike.read_eq]
  rw [loadServices, loadServices, alike.pathExists_eq, alike.walk_eq, described]

end Disk.Alike

end Emplace.Files
