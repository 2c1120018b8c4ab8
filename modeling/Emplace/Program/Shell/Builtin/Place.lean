import Emplace.Program.Shell.Builtin

namespace Emplace.Program.Shell

structure Way where
  root : String
  names : List String
  deriving DecidableEq, Repr, Inhabited

def Way.text (w : Way) : String := w.root ++ "/".intercalate w.names

/-- The way from the root along an absolute path. Two slashes at its start are kept, more count as one. -/
def Way.ofPath (path : String) : Way :=
  let slashes := path.toList.takeWhile (· == '/')
  ⟨if slashes.length = 2 then "//" else "/", Files.components path⟩

def Way.along (here : Way) (path : String) : Way :=
  let start := if Files.isAbsolute path then { Way.ofPath path with names := [] } else here
  (Files.components path).foldl
    (fun w name =>
      if name = "." then w
      else if name = ".." then { w with names := w.names.dropLast }
      else { w with names := w.names ++ [name] })
    start

def folderChoices (s : State) (path : String) : List (String × Bool) :=
  let isNearby := (Files.components path).head?.any fun name => name = "." || name = ".."
  let listed := if path = "" || Files.isAbsolute path || isNearby then none else s.bindings.lookup "CDPATH"
  let choices := (listed.map fun text => text.splitOn ":").getD []
  let found := choices.map fun folder => (if folder = "" then path else Files.join folder path, folder != "")
  (found.filter fun (path, _) => (fileQuestion? s.disk 'd').any fun asks => asks path) ++ [(path, false)]

def cdCommand : Builtin := fun s args =>
  withLetters s ['L', 'P'] [] args fun letters args =>
    let isPhysical := (letters.given.getLast?.map Prod.fst) = some 'P'
    let back := args.head? = some "-"
    let target := match args.head? with
      | none => s.bindings.lookup "HOME"
      | some "-" => s.bindings.lookup "OLDPWD"
      | some path => some path
    let asked := target.getD ""
    let (path, isTold) := ((folderChoices s asked).head?).getD (asked, false)
    let whole := ((Way.ofPath s.here).along path).text
    match s.disk.find (Raw.toText (if isPhysical then (if path = "" then "." else path) else whole)) with
    | .ok (place, .folder _) =>
      let before := s.here
      let s := { s with disk := { s.disk with working := place }, stale := s.found.map Prod.fst }
      let s := { s with here := if isPhysical then s.placePath else whole }
      let s := (s.assign "OLDPWD" before).assign "PWD" s.here
      let s := { s with exported := ["OLDPWD", "PWD"] ++ s.exported.filter fun n => n ≠ "OLDPWD" && n ≠ "PWD" }
      (if back || isTold then s.printLine s.here else s).succeed
    | _ => s.refuse s!"can\x27t cd to {asked}" 2

def pwdCommand : Builtin := fun s args =>
  withLetters s ['L', 'P'] [] args fun letters _ =>
    (s.printLine (if (letters.given.getLast?.map Prod.fst) = some 'P' then s.placePath else s.here)).succeed

end Emplace.Program.Shell
