import Emplace.Proofs.Files.Listing
import Mathlib.Data.List.Lex
import Mathlib.Data.String.Basic

/-!
# What a walk comes to

The entries below an entry, told by the tree: a folder opens, and so does a link to one, and what is held there is
further down. A path is looked up for links alone. A walk reports the files and the entries that block it, each once,
in the order of the names on the way to them: depth first, and in each folder by name.
-/

namespace Emplace.Files

/-- An entry on the way down: the folders above it, nearest first, its path, where it stands, and what it is. -/
structure Entry where
  above : List Ancestor
  path : String
  place : Place
  node : Tree

namespace Entry

def child (e : Entry) (place : Place) (name : String) (node : Tree) : Entry :=
  ⟨(place, e.path) :: e.above, join e.path name, place ++ [name], node⟩

/-- The folder that an entry opens. A path has to be short enough, and a link opens no folder that it is below. -/
inductive Opens (disk : Disk) (e : Entry) : Place → List (String × Tree) → Prop
  | folder {entries : List (String × Tree)} (node : e.node = .folder entries)
      (short : e.path.utf8ByteSize < Disk.pathLimit) : Opens disk e e.place entries
  | link {target : String} {place : Place} {entries : List (String × Tree)} (node : e.node = .link target)
      (found : disk.find e.path = .ok (place, .folder entries)) (fresh : e.above.lookup place = none) :
      Opens disk e place entries

inductive Holds (disk : Disk) (e : Entry) : Bytes → Prop
  | file {content : Bytes} (node : e.node = .file content) : Holds disk e content
  | link {target : String} {place : Place} {content : Bytes} (node : e.node = .link target)
      (found : disk.find e.path = .ok (place, .file content)) : Holds disk e content

/-- What ends a walk: a link that leads nowhere or back to a folder above it, or a folder too far down. -/
inductive Blocks (disk : Disk) (e : Entry) : WalkError → Prop
  | dangling {target : String} {cause : SystemError} (node : e.node = .link target)
      (missed : disk.find e.path = .error cause) : Blocks disk e (.io e.path cause)
  | looped {target ancestor : String} {place : Place} {entries : List (String × Tree)} (node : e.node = .link target)
      (found : disk.find e.path = .ok (place, .folder entries)) (passed : e.above.lookup place = some ancestor) :
      Blocks disk e (.loop e.path ancestor)
  | deep {entries : List (String × Tree)} (node : e.node = .folder entries)
      (long : Disk.pathLimit ≤ e.path.utf8ByteSize) : Blocks disk e (.io e.path .nameTooLong)

inductive Below (disk : Disk) : Entry → List String → Entry → Prop
  | here (e : Entry) : Below disk e [] e
  | inside {e f : Entry} {place : Place} {entries : List (String × Tree)} {name : String} {node : Tree}
      {names : List String} (opens : e.Opens disk place entries) (held : entries.lookup name = some node)
      (below : Below disk (e.child place name node) names f) : Below disk e (name :: names) f

inductive Reports (disk : Disk) (e : Entry) : Except WalkError String → Prop
  | file {content : Bytes} (holds : e.Holds disk content) : Reports disk e (.ok e.path)
  | blocked {error : WalkError} (blocks : e.Blocks disk error) : Reports disk e (.error error)

variable {disk : Disk} {e f : Entry} {place place' : Place} {entries entries' : List (String × Tree)}
  {names : List String}

theorem below_of_shut (shut : ∀ place entries, ¬e.Opens disk place entries) :
    Below disk e names f ↔ names = [] ∧ f = e := by
  constructor
  · intro below
    cases below with
    | here => exact ⟨rfl, rfl⟩
    | inside opens held below => exact absurd opens (shut _ _)
  · rintro ⟨rfl, rfl⟩
    exact .here f

/-! An entry opens one folder, is a file, blocks in one way, or is passed over. -/

theorem Opens.unique (opens : e.Opens disk place entries) (opens' : e.Opens disk place' entries') :
    place = place' ∧ entries = entries' := by
  cases opens with
  | folder node short =>
    cases opens' with
    | folder node' _ =>
      cases node.symm.trans node'
      exact ⟨rfl, rfl⟩
    | link node' _ _ => cases node.symm.trans node'
  | link node found fresh =>
    cases opens' with
    | folder node' _ => cases node.symm.trans node'
    | link _ found' _ =>
      cases found.symm.trans found'
      exact ⟨rfl, rfl⟩

theorem Opens.not_holds (opens : e.Opens disk place entries) (content : Bytes) : ¬e.Holds disk content := by
  intro holds
  cases opens with
  | folder node short => cases holds with
    | file node' => cases node.symm.trans node'
    | link node' _ => cases node.symm.trans node'
  | link node found fresh => cases holds with
    | file node' => cases node.symm.trans node'
    | link _ found' => cases found.symm.trans found'

theorem Opens.not_blocks (opens : e.Opens disk place entries) (error : WalkError) : ¬e.Blocks disk error := by
  intro blocks
  cases opens with
  | folder node short =>
    cases blocks with
    | dangling node' _ => cases node.symm.trans node'
    | looped node' _ _ => cases node.symm.trans node'
    | deep _ long => exact absurd short (Nat.not_lt.2 long)
  | link node found fresh =>
    cases blocks with
    | dangling _ missed => cases found.symm.trans missed
    | looped _ found' passed =>
      cases found.symm.trans found'
      cases fresh.symm.trans passed
    | deep node' _ => cases node.symm.trans node'

theorem Holds.not_blocks {content : Bytes} (holds : e.Holds disk content) (error : WalkError) :
    ¬e.Blocks disk error := by
  intro blocks
  cases holds with
  | file node =>
    cases blocks with
    | dangling node' _ => cases node.symm.trans node'
    | looped node' _ _ => cases node.symm.trans node'
    | deep node' _ => cases node.symm.trans node'
  | link node found =>
    cases blocks with
    | dangling _ missed => cases found.symm.trans missed
    | looped _ found' _ => cases found.symm.trans found'
    | deep node' _ => cases node.symm.trans node'

theorem Blocks.unique {error error' : WalkError} (blocks : e.Blocks disk error) (blocks' : e.Blocks disk error') :
    error = error' := by
  cases blocks with
  | dangling node missed =>
    cases blocks' with
    | dangling _ missed' =>
      cases missed.symm.trans missed'
      rfl
    | looped _ found _ => cases missed.symm.trans found
    | deep node' _ => cases node.symm.trans node'
  | looped node found passed =>
    cases blocks' with
    | dangling _ missed => cases found.symm.trans missed
    | looped _ found' passed' =>
      cases found.symm.trans found'
      cases passed.symm.trans passed'
      rfl
    | deep node' _ => cases node.symm.trans node'
  | deep node long =>
    cases blocks' with
    | dangling node' _ => cases node.symm.trans node'
    | looped node' _ _ => cases node.symm.trans node'
    | deep _ _ => rfl

theorem Opens.not_reports (opens : e.Opens disk place entries) (r : Except WalkError String) : ¬e.Reports disk r := by
  intro reported
  cases reported with
  | file holds => exact opens.not_holds _ holds
  | blocked blocks => exact opens.not_blocks _ blocks

theorem Opens.below_iff (opens : e.Opens disk place entries) :
    Below disk e names f ↔ (names = [] ∧ f = e) ∨ ∃ name node rest, entries.lookup name = some node ∧
      names = name :: rest ∧ Below disk (e.child place name node) rest f := by
  constructor
  · intro below
    cases below with
    | here => exact .inl ⟨rfl, rfl⟩
    | inside opens' held below =>
      obtain ⟨rfl, rfl⟩ := opens.unique opens'
      exact .inr ⟨_, _, _, held, rfl, below⟩
  · rintro (⟨rfl, rfl⟩ | ⟨name, node, rest, held, rfl, below⟩)
    · exact .here f
    · exact .inside opens held below

theorem Below.unique {f' : Entry} (below : e.Below disk names f) (below' : e.Below disk names f') : f = f' := by
  induction below with
  | here e =>
    cases below'
    rfl
  | inside opens held below ih =>
    cases below' with
    | inside opens' held' below' =>
      obtain ⟨rfl, rfl⟩ := opens.unique opens'
      cases held.symm.trans held'
      exact ih below'

/-- An entry whose path leads to where it stands, links and paths that are too long apart. -/
structure Stands (disk : Disk) (e : Entry) : Prop where
  clean : '\x00' ∉ e.path.toList
  found : (∀ target, e.node ≠ .link target) → e.path.utf8ByteSize < Disk.pathLimit →
    disk.find e.path = .ok (e.place, e.node)

theorem Stands.find_of_opens (stands : e.Stands disk) (opens : e.Opens disk place entries) :
    disk.find e.path = .ok (place, .folder entries) := by
  cases opens with
  | folder node short =>
    rw [stands.found (by simp [node]) short, node]
  | link node found fresh => exact found

theorem Stands.child (stands : e.Stands disk) (named : disk.root.Named) (opens : e.Opens disk place entries)
    {name : String} {node : Tree} (held : entries.lookup name = some node) :
    (e.child place name node).Stands disk := by
  have found := stands.find_of_opens opens
  have proper := named.proper (Disk.at?_of_find found) held
  exact ⟨clean_join stands.clean proper, Disk.find_join found held proper⟩

theorem Below.stands (below : e.Below disk names f) (named : disk.root.Named) (stands : e.Stands disk) :
    f.Stands disk := by
  induction below with
  | here => exact stands
  | inside opens held below ih => exact ih (stands.child named opens held)

end Entry

structure Covers (disk : Disk) (e : Entry) (reports : List (List String × Except WalkError String)) : Prop where
  ascending : reports.Pairwise (fun a b => a.1 < b.1)
  mem_iff : ∀ names r, (names, r) ∈ reports ↔ ∃ f, e.Below disk names f ∧ f.Reports disk r

def Tells (disk : Disk) (e : Entry) (result : Except WalkError (List String)) : Prop :=
  ∃ reports, Covers disk e reports ∧ result = reports.mapM Prod.snd

variable {disk : Disk} {e : Entry} {place : Place} {entries : List (String × Tree)}

theorem covers_nil (shut : ∀ place entries, ¬e.Opens disk place entries) (noFile : ∀ content, ¬e.Holds disk content)
    (free : ∀ error, ¬e.Blocks disk error) : Covers disk e [] := by
  refine ⟨.nil, fun names r => ?_⟩
  constructor
  · intro member
    cases member
  · rintro ⟨f, below, reported⟩
    obtain ⟨-, rfl⟩ := (Entry.below_of_shut shut).1 below
    cases reported with
    | file holds => exact absurd holds (noFile _)
    | blocked blocks => exact absurd blocks (free _)

theorem covers_singleton {report : Except WalkError String} (told : ∀ r, e.Reports disk r ↔ r = report) :
    Covers disk e [([], report)] := by
  have shut (place : Place) (entries : List (String × Tree)) : ¬e.Opens disk place entries :=
    fun opens => opens.not_reports report ((told report).2 rfl)
  refine ⟨List.pairwise_singleton _ _, fun names r => ?_⟩
  rw [List.mem_singleton, Prod.mk.injEq]
  constructor
  · rintro ⟨rfl, rfl⟩
    exact ⟨e, .here e, (told _).2 rfl⟩
  · rintro ⟨f, below, reported⟩
    obtain ⟨rfl, rfl⟩ := (Entry.below_of_shut shut).1 below
    exact ⟨rfl, (told r).1 reported⟩

theorem covers_of_holds {content : Bytes} (holds : e.Holds disk content) : Covers disk e [([], .ok e.path)] := by
  refine covers_singleton fun r => ⟨fun reported => ?_, fun same => same ▸ .file holds⟩
  cases reported with
  | file => rfl
  | blocked blocks => exact absurd blocks (holds.not_blocks _)

theorem covers_of_blocks {error : WalkError} (blocks : e.Blocks disk error) : Covers disk e [([], .error error)] := by
  refine covers_singleton fun r => ⟨fun reported => ?_, fun same => same ▸ .blocked blocks⟩
  cases reported with
  | file holds => exact absurd blocks (holds.not_blocks _)
  | blocked blocks' => rw [blocks.unique blocks']

theorem covers_of_opens (opens : e.Opens disk place entries) {reports : List (List String × Except WalkError String)}
    (ascending : reports.Pairwise (fun a b => a.1 < b.1))
    (mem : ∀ names r, (names, r) ∈ reports ↔ ∃ item ∈ sorted entries, ∃ rest f, names = item.1 :: rest ∧
      (e.child place item.1 item.2).Below disk rest f ∧ f.Reports disk r) : Covers disk e reports := by
  refine ⟨ascending, fun names r => (mem names r).trans ?_⟩
  constructor
  · rintro ⟨⟨name, node⟩, member, rest, f, rfl, below, reported⟩
    exact ⟨f, .inside opens (mem_sorted_iff.1 member) below, reported⟩
  · rintro ⟨f, below, reported⟩
    obtain ⟨-, rfl⟩ | ⟨name, node, rest, held, rfl, inner⟩ := opens.below_iff.1 below
    · exact absurd reported (opens.not_reports r)
    · exact ⟨(name, node), mem_sorted_iff.2 held, rest, f, rfl, inner, reported⟩

def under (name : String) (reports : List (List String × Except WalkError String)) :
    List (List String × Except WalkError String) :=
  reports.map fun report => (name :: report.1, report.2)

theorem mem_under_iff {name : String} {reports : List (List String × Except WalkError String)} {names : List String}
    {r : Except WalkError String} :
    (names, r) ∈ under name reports ↔ ∃ rest, names = name :: rest ∧ (rest, r) ∈ reports := by
  simp only [under, List.mem_map, Prod.exists, Prod.mk.injEq]
  constructor
  · rintro ⟨rest, r, member, rfl, rfl⟩
    exact ⟨rest, rfl, member⟩
  · rintro ⟨rest, rfl, member⟩
    exact ⟨rest, r, member, rfl, rfl⟩

theorem covers_listed (scan : String × Tree → Except WalkError (List String)) (inner : String × Tree → Entry)
    (listed : List (String × Tree)) (ascending : listed.Pairwise (fun a b => a.1 < b.1))
    (each : ∀ item ∈ listed, Tells disk (inner item) (scan item)) :
    ∃ reports : List (List String × Except WalkError String), reports.Pairwise (fun a b => a.1 < b.1) ∧
      (∀ names r, (names, r) ∈ reports ↔ ∃ item ∈ listed, ∃ rest f, names = item.1 :: rest ∧
        (inner item).Below disk rest f ∧ f.Reports disk r) ∧
      (listed.mapM scan).map List.flatten = reports.mapM Prod.snd := by
  induction listed with
  | nil => exact ⟨[], .nil, by simp, rfl⟩
  | cons item listed ih =>
    obtain ⟨before, ascending⟩ := List.pairwise_cons.1 ascending
    obtain ⟨own, covers, scanned⟩ := each item List.mem_cons_self
    obtain ⟨later, sorted, mem, walked⟩ := ih ascending fun item member => each item (List.mem_cons_of_mem _ member)
    refine ⟨under item.1 own ++ later, ?_, ?_, ?_⟩
    · refine List.pairwise_append.2 ⟨?_, sorted, ?_⟩
      · refine List.pairwise_map.2 (covers.ascending.imp fun before => ?_)
        exact List.cons_lt_cons_iff.2 (.inr ⟨rfl, before⟩)
      · rintro ⟨names, r⟩ first ⟨names', r'⟩ second
        obtain ⟨rest, rfl, -⟩ := mem_under_iff.1 first
        obtain ⟨item', member, rest', f, rfl, -⟩ := (mem names' r').1 second
        exact List.cons_lt_cons_iff.2 (.inl (before item' member))
    · intro names r
      rw [List.mem_append, mem_under_iff, mem]
      simp only [List.mem_cons, exists_eq_or_imp, covers.mem_iff]
      refine or_congr ?_ Iff.rfl
      simp only [← exists_and_left]
    · rw [List.mapM_cons, scanned, List.mapM_append, under, List.mapM_map, ← walked]
      change _ = (do return (← own.mapM Prod.snd) ++ (← (listed.mapM scan).map List.flatten))
      cases own.mapM Prod.snd <;> cases listed.mapM scan <;> rfl

theorem tells_visit {enter : String → Except WalkError (List String)}
    (opened : ∀ place entries, e.Opens disk place entries → Tells disk e (enter e.path))
    (deep : Disk.pathLimit ≤ e.path.utf8ByteSize → enter e.path = .error (.io e.path .nameTooLong)) :
    Tells disk e (visit disk enter e.above e.path e.node) := by
  cases known : e.node with
  | file content => exact ⟨_, covers_of_holds (.file known), rfl⟩
  | device =>
    refine ⟨[], covers_nil ?_ ?_ ?_, rfl⟩
    · rintro place entries (⟨node, -⟩ | ⟨node, -, -⟩) <;> cases known.symm.trans node
    · rintro content (node | ⟨node, -⟩) <;> cases known.symm.trans node
    · rintro error (⟨node, -⟩ | ⟨node, -, -⟩ | ⟨node, -⟩) <;> cases known.symm.trans node
  | folder entries =>
    by_cases long : Disk.pathLimit ≤ e.path.utf8ByteSize
    · exact ⟨_, covers_of_blocks (.deep known long), deep long⟩
    · exact opened e.place entries (.folder known (Nat.not_le.1 long))
  | link target =>
    rw [visit_link, follow]
    cases found : disk.find e.path with
    | error cause => exact ⟨_, covers_of_blocks (.dangling known found), rfl⟩
    | ok standing =>
      obtain ⟨place, node⟩ := standing
      cases node with
      | file content => exact ⟨_, covers_of_holds (.link known found), rfl⟩
      | folder entries =>
        cases passed : e.above.lookup place with
        | none =>
          simp only [passed]
          exact opened place entries (.link known found passed)
        | some ancestor =>
          simp only [passed]
          exact ⟨_, covers_of_blocks (.looped known found passed), rfl⟩
      | _ =>
        refine ⟨[], covers_nil ?_ ?_ ?_, rfl⟩
        · rintro place' entries (⟨node, -⟩ | ⟨-, found', -⟩)
          · cases known.symm.trans node
          · cases found.symm.trans found'
        · rintro content (node | ⟨-, found'⟩)
          · cases known.symm.trans node
          · cases found.symm.trans found'
        · rintro error (⟨-, missed⟩ | ⟨-, found', -⟩ | ⟨node, -⟩)
          · cases found.symm.trans missed
          · cases found.symm.trans found'
          · cases known.symm.trans node

/-- Each folder on the way down makes a path longer, so a walk that is deep enough for the longest path is not cut
short. -/
theorem tells_walkWithin (named : disk.root.Named) (bound : Nat) (e : Entry) (stands : e.Stands disk)
    (enough : Disk.pathLimit ≤ bound + e.path.utf8ByteSize) :
    Tells disk e (visit disk (walkWithin disk bound e.above) e.above e.path e.node) := by
  induction bound generalizing e with
  | zero =>
    have missed : disk.find e.path = .error .nameTooLong := Disk.find_of_long stands.clean (by omega)
    refine tells_visit (fun place entries opens => ?_) (fun _ => rfl)
    cases missed.symm.trans (stands.find_of_opens opens)
  | succ bound ih =>
    refine tells_visit (fun place entries opens => ?_) (fun long => ?_)
    · have found := stands.find_of_opens opens
      have inside : ∀ item ∈ sorted entries, Tells disk (e.child place item.1 item.2)
          (visit disk (walkWithin disk bound ((place, e.path) :: e.above)) ((place, e.path) :: e.above)
            (join e.path item.1) item.2) := by
        rintro ⟨name, node⟩ member
        have held := mem_sorted_iff.1 member
        have longer := longer_join (named.proper (Disk.at?_of_find found) held) e.path
        have still : Disk.pathLimit ≤ bound + (join e.path name).utf8ByteSize := by omega
        exact ih (e.child place name node) (stands.child named opens held) still
      obtain ⟨reports, ascending, mem, walked⟩ := covers_listed
        (fun item => visit disk (walkWithin disk bound ((place, e.path) :: e.above)) ((place, e.path) :: e.above)
          (join e.path item.1) item.2)
        (fun item => e.child place item.1 item.2) (sorted entries) (ascending_sorted entries) inside
      refine ⟨reports, covers_of_opens opens ascending mem, ?_⟩
      rw [walkWithin, found, Disk.list_of_folder found]
      exact walked
    · rw [walkWithin, Disk.find_of_long stands.clean long]

end Emplace.Files
