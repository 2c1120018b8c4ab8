import Emplace.Proofs.Files.Alike
import Emplace.Proofs.Files.Descent
import Mathlib.Data.List.Sort

namespace Emplace.Files

def Describes (disk : Disk) (f : Entry) (d : ServiceDescriptor) : Prop :=
  hasExtension "toml" f.path ∧ f.path.utf8ByteSize < Disk.pathLimit ∧
    ∃ content text document, f.Holds disk content ∧ Text.decode? content = some text ∧
      Toml.parse? text = some document ∧ ServiceDescriptor.shape.ofToml (.table document) = some d

/-- The result of a scan from an entry: all descriptors below it, ordered by the names on the way, or what the first
blocking entry says. -/
inductive Found (disk : Disk) (top : Entry) : Except WalkError (List ServiceDescriptor) → Prop
  | all (found : List (List String × ServiceDescriptor)) (ascending : found.Pairwise (fun a b => a.1 < b.1))
      (mem_iff : ∀ names d, (names, d) ∈ found ↔ ∃ f, top.Below disk names f ∧ Describes disk f d)
      (free : ∀ names f error, top.Below disk names f → ¬f.Blocks disk error) :
      Found disk top (.ok (found.map Prod.snd))
  | blocked {names : List String} {f : Entry} {error : WalkError} (below : top.Below disk names f)
      (blocks : f.Blocks disk error)
      (first : ∀ names' f' error', top.Below disk names' f' → f'.Blocks disk error' → names ≤ names') :
      Found disk top (.error error)

variable {disk : Disk} {top f : Entry}

theorem eq_of_ascending {α : Type} {l l' : List (List String × α)} (ascending : l.Pairwise (fun a b => a.1 < b.1))
    (ascending' : l'.Pairwise (fun a b => a.1 < b.1)) (mem : ∀ a, a ∈ l ↔ a ∈ l') : l = l' := by
  have nodup {l : List (List String × α)} (ascending : l.Pairwise (fun a b => a.1 < b.1)) : l.Nodup := by
    refine ascending.imp ?_
    rintro a b before rfl
    exact lt_irrefl _ before
  have perm := (List.perm_ext_iff_of_nodup (nodup ascending) (nodup ascending')).2 mem
  exact perm.eq_of_pairwise (fun a b _ _ before after => absurd before (lt_asymm after)) ascending ascending'

theorem Found.unique {r r' : Except WalkError (List ServiceDescriptor)} (found : Found disk top r)
    (found' : Found disk top r') : r = r' := by
  cases found with
  | all found ascending mem free =>
    cases found' with
    | all found' ascending' mem' free' =>
      have same (item : List String × ServiceDescriptor) : item ∈ found ↔ item ∈ found' :=
        (mem item.1 item.2).trans (mem' item.1 item.2).symm
      rw [eq_of_ascending ascending ascending' same]
    | blocked below' blocks' first' => exact absurd blocks' (free _ _ _ below')
  | blocked below blocks first =>
    cases found' with
    | all found' ascending' mem' free' => exact absurd blocks (free' _ _ _ below)
    | blocked below' blocks' first' =>
      cases le_antisymm (first _ _ _ below' blocks') (first' _ _ _ below blocks)
      cases below.unique below'
      rw [blocks.unique blocks']

theorem read_of_holds (stands : f.Stands disk) {content : Bytes} (holds : f.Holds disk content) :
    disk.read f.path = if f.path.utf8ByteSize < Disk.pathLimit then .ok content else .error .nameTooLong := by
  split
  · rename_i short
    cases holds with
    | file node => rw [Disk.read, stands.found (by simp [node]) short, node]
    | link node found => rw [Disk.read, found]
  · rename_i long
    rw [Disk.read, Disk.find_of_long stands.clean (Nat.not_lt.1 long)]

theorem Entry.Holds.unique {content content' : Bytes} (holds : f.Holds disk content)
    (holds' : f.Holds disk content') : content = content' := by
  cases holds with
  | file node =>
    cases holds' with
    | file node' =>
      cases node.symm.trans node'
      rfl
    | link node' _ => cases node.symm.trans node'
  | link node found =>
    cases holds' with
    | file node' => cases node.symm.trans node'
    | link _ found' =>
      cases found.symm.trans found'
      rfl

theorem descriptorOf?_eq_some_iff {content : Bytes} {d : ServiceDescriptor} :
    descriptorOf? content = some d ↔ ∃ text document, Text.decode? content = some text ∧
      Toml.parse? text = some document ∧ ServiceDescriptor.shape.ofToml (.table document) = some d := by
  simp [descriptorOf?, Option.bind_eq_some_iff]

theorem descriptorAt?_eq_some_iff (stands : f.Stands disk) {content : Bytes} (holds : f.Holds disk content)
    {d : ServiceDescriptor} : descriptorAt? disk f.path = some d ↔ Describes disk f d := by
  rw [descriptorAt?, read_of_holds stands holds]
  constructor
  · intro described
    split at described
    · rename_i named
      split at described
      · rename_i content' read
        split at read
        · rename_i short
          cases read
          obtain ⟨text, document, held⟩ := descriptorOf?_eq_some_iff.1 described
          exact ⟨named, short, content, text, document, holds, held⟩
        · cases read
      · cases described
    · cases described
  · rintro ⟨named, short, content', text, document, holds', held⟩
    cases holds.unique holds'
    rw [if_pos named, if_pos short]
    exact descriptorOf?_eq_some_iff.2 ⟨text, document, held⟩

theorem mapM_snd_cases {α β ε : Type} (reports : List (α × Except ε β)) :
    (∃ told : List (α × β), reports = told.map (Prod.map id .ok) ∧
      reports.mapM Prod.snd = .ok (told.map Prod.snd)) ∨
    ∃ told : List (α × β), ∃ a error after, reports = told.map (Prod.map id .ok) ++ (a, .error error) :: after ∧
      reports.mapM Prod.snd = .error error := by
  induction reports with
  | nil => exact .inl ⟨[], rfl, rfl⟩
  | cons report reports ih =>
    obtain ⟨a, r⟩ := report
    rw [List.mapM_cons]
    cases r with
    | error error => exact .inr ⟨[], a, error, reports, rfl, rfl⟩
    | ok b =>
      rcases ih with ⟨told, rfl, result⟩ | ⟨told, a', error, after, rfl, result⟩
      · refine .inl ⟨(a, b) :: told, rfl, ?_⟩
        rw [result]
        rfl
      · refine .inr ⟨(a, b) :: told, a', error, after, rfl, ?_⟩
        rw [result]
        rfl

theorem reports_ok_iff {path : String} :
    f.Reports disk (.ok path) ↔ (∃ content, f.Holds disk content) ∧ f.path = path := by
  constructor
  · intro reported
    cases reported with
    | file holds => exact ⟨⟨_, holds⟩, rfl⟩
  · rintro ⟨⟨content, holds⟩, rfl⟩
    exact .file holds

theorem found_of_told (named : disk.root.Named) (stands : top.Stands disk) {told : List (List String × String)}
    (covers : Covers disk top (told.map (Prod.map id .ok))) :
    Found disk top (.ok ((told.map Prod.snd).filterMap (descriptorAt? disk))) := by
  have mem_told (names : List String) (path : String) :
      (names, path) ∈ told ↔ ∃ f, top.Below disk names f ∧ (∃ content, f.Holds disk content) ∧ f.path = path := by
    simpa [reports_ok_iff] using covers.mem_iff names (.ok path)
  have described : (told.map Prod.snd).filterMap (descriptorAt? disk) =
      (told.filterMap fun t => (descriptorAt? disk t.2).map (Prod.mk t.1)).map Prod.snd := by
    simp [List.filterMap_map, List.map_filterMap, Function.comp_def]
  rw [described]
  refine .all _ ?_ ?_ ?_
  · refine (List.pairwise_map.1 covers.ascending).filterMap _ ?_
    intro t t' before found own found' own'
    obtain ⟨d, -, rfl⟩ := Option.map_eq_some_iff.1 own
    obtain ⟨d', -, rfl⟩ := Option.map_eq_some_iff.1 own'
    exact before
  · intro names d
    simp only [List.mem_filterMap, Option.map_eq_some_iff, Prod.mk.injEq]
    constructor
    · rintro ⟨⟨names, path⟩, member, d, described, rfl, rfl⟩
      obtain ⟨f, below, ⟨content, holds⟩, rfl⟩ := (mem_told names path).1 member
      exact ⟨f, below, (descriptorAt?_eq_some_iff (below.stands named stands) holds).1 described⟩
    · rintro ⟨f, below, described⟩
      have ⟨_, _, content, _, _, holds, _⟩ := described
      have member := (mem_told names f.path).2 ⟨f, below, ⟨content, holds⟩, rfl⟩
      have found := (descriptorAt?_eq_some_iff (below.stands named stands) holds).2 described
      exact ⟨_, member, d, found, rfl, rfl⟩
  · intro names f error below blocks
    obtain ⟨t, -, same⟩ := List.mem_map.1 ((covers.mem_iff _ _).2 ⟨f, below, .blocked blocks⟩)
    cases same

theorem found_of_error {told : List (List String × String)} {names : List String} {error : WalkError}
    {after : List (List String × Except WalkError String)}
    (covers : Covers disk top (told.map (Prod.map id .ok) ++ (names, .error error) :: after)) :
    Found disk top (.error error) := by
  obtain ⟨f, below, reported⟩ := (covers.mem_iff _ _).1 (List.mem_append_right _ List.mem_cons_self)
  cases reported with
  | blocked blocks =>
    refine .blocked below blocks fun names' f' error' below' blocks' => ?_
    obtain ⟨-, ascending, -⟩ := List.pairwise_append.1 covers.ascending
    rcases List.mem_append.1 ((covers.mem_iff _ _).2 ⟨f', below', .blocked blocks'⟩) with early | late
    · obtain ⟨t, -, same⟩ := List.mem_map.1 early
      cases same
    · rcases List.mem_cons.1 late with same | late
      · cases same
        exact le_refl _
      · exact (List.rel_of_pairwise_cons ascending late).le

theorem found_of_tells (named : disk.root.Named) (stands : top.Stands disk)
    {result : Except WalkError (List String)} (tells : Tells disk top result) :
    Found disk top (result.map (List.filterMap (descriptorAt? disk))) := by
  obtain ⟨reports, covers, rfl⟩ := tells
  rcases mapM_snd_cases reports with ⟨told, rfl, result⟩ | ⟨told, names, error, after, rfl, result⟩
  · rw [result]
    exact found_of_told named stands covers
  · rw [result]
    exact found_of_error covers

theorem found_loadServices (named : disk.root.Named) {path : String} {place : Place} {node : Tree}
    (found : disk.find path = .ok (place, node)) : Found disk ⟨[], path, place, node⟩ (loadServices disk path) := by
  have stands : Entry.Stands disk ⟨[], path, place, node⟩ := ⟨(Disk.find_eq_ok_iff.1 found).1, fun _ _ => found⟩
  have tells := tells_walkWithin named Disk.pathLimit _ stands (Nat.le_add_right _ _)
  have there : disk.pathExists path := by
    rw [Disk.pathExists, found]
    rfl
  have followed : follow disk [] path = .ok node := by
    rw [follow, found]
    cases node <;> rfl
  rw [loadServices, if_pos there, walk_eq_bind, followed, Except.bind]
  exact found_of_tells named stands tells

/-- A scan of a path that leads somewhere gives what is found below, and of one that leads nowhere nothing. What it
gives depends on what stands in the tree alone. -/
theorem services (disk : Disk) (named : disk.root.Named) (path : String) :
    (∀ place node, disk.find path = .ok (place, node) →
      ∀ r, loadServices disk path = r ↔ Found disk ⟨[], path, place, node⟩ r) ∧
    (disk.pathExists path = false → loadServices disk path = .ok []) ∧
    ∀ other, disk.Alike other → loadServices other path = loadServices disk path := by
  refine ⟨fun place node found r => ?_, fun missing => ?_, fun other alike => (alike.services_eq path).symm⟩
  · have walked := found_loadServices named found
    exact ⟨fun same => same ▸ walked, walked.unique⟩
  · rw [loadServices, missing]
    rfl

def description : Bytes := Text.encode "service_name = \"a\"\nexecutable = \"/opt/a\"\n".toList

def linked : List (String × Tree) :=
  [("sub", .folder [("a.toml", .file description)]), ("b.toml", .link "sub/a.toml"), ("bad.toml", .file [0xFF])]

theorem services_linked :
    (Tree.folder linked).Named ∧
      Found ⟨.folder linked, []⟩ ⟨[], "/", [], .folder linked⟩ (.ok [⟨"a", "/opt/a", []⟩, ⟨"a", "/opt/a", []⟩]) ∧
      loadServices ⟨.folder linked, []⟩ "/sub/b" = .ok [] ∧
      Disk.Alike ⟨.folder linked, []⟩ ⟨.folder linked.reverse, []⟩ ∧
      loadServices ⟨.folder linked.reverse, []⟩ "/" = loadServices ⟨.folder linked, []⟩ "/" := by
  have leaf {name : String} {node : Tree} (proper : Proper name) (plain : ∀ entries, node ≠ .folder entries) :
      Proper name ∧ node.Named := ⟨proper, Tree.named_of_not_folder plain⟩
  have sub : (Tree.folder [("a.toml", .file description)]).Named :=
    Tree.named_folder (List.forall_mem_singleton.2 (leaf (by decide) (fun _ => nofun)))
  have named : (Tree.folder linked).Named := by
    apply Tree.named_folder
    simp only [linked, List.forall_mem_cons]
    exact ⟨⟨by decide, sub⟩, leaf (by decide) (fun _ => nofun), leaf (by decide) (fun _ => nofun),
      List.forall_mem_nil _⟩
  have alike : Disk.Alike ⟨.folder linked, []⟩ ⟨.folder linked.reverse, []⟩ := by
    refine ⟨Tree.alike_folder fun name => ?_, rfl⟩
    simp only [linked, List.reverse_cons, List.reverse_nil, List.nil_append, List.cons_append, Roster.lookup_cons]
    by_cases first : name = "sub"
    · simp [first]
    · by_cases second : name = "b.toml" <;> simp [first, second]
  obtain ⟨found, missing, created⟩ := services ⟨.folder linked, []⟩ named "/"
  refine ⟨named, (found [] (.folder linked) rfl _).1 (by decide +kernel), ?_, alike, created _ alike⟩
  exact (services ⟨.folder linked, []⟩ named "/sub/b").2.1 (by decide +kernel)

theorem services_hidden :
    let disk : Disk := ⟨.folder [("a.toml", .file description), ("gone.toml", .link "nowhere.toml")], []⟩
    descriptorAt? disk "/a.toml" = some ⟨"a", "/opt/a", []⟩ ∧
      loadServices disk "/" = .error (.io "/gone.toml" .noSuchFile) := by
  decide +kernel

end Emplace.Files
