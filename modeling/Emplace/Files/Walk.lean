import Emplace.Files.Disk
import Emplace.Record.Wire
import Emplace.Toml.Document

/-!
# Walking a folder of services

Finds the files below a path, depth first and in the order of their names, with links followed, and reads the
service descriptors among them. A link that leads nowhere or back to a folder above it ends the walk; a file
that holds no descriptor is passed over.
-/

namespace Emplace.Files

inductive WalkError
  | io (path : String) (cause : SystemError)
  | loop (path ancestor : String)
  deriving DecidableEq, Repr, Inhabited

def WalkError.texts : WalkError → List String
  | .io path cause => [s!"IO error for operation on {path}: {cause.text}", cause.text]
  | .loop path ancestor => [s!"File system loop found: {path} points to an ancestor {ancestor}"]

abbrev Ancestor := Place × String

/-- What a link or a root leads to, refused if that is an ancestor. -/
def follow (disk : Disk) (ancestors : List Ancestor) (path : String) : Except WalkError Tree :=
  match disk.find path with
  | .error e => .error (.io path e)
  | .ok (place, node) =>
    match node, ancestors.lookup place with
    | .folder _, some ancestor => .error (.loop path ancestor)
    | _, _ => .ok node

def visit (disk : Disk) (enter : String → Except WalkError (List String)) (ancestors : List Ancestor)
    (path : String) (node : Tree) : Except WalkError (List String) := do
  let node ← match node with
    | .link _ => follow disk ancestors path
    | _ => pure node
  match node with
  | .folder _ => enter path
  | .file _ => return [path]
  | _ => return []

/-- The files below the folder at a path. Each folder on the way down makes the path longer, so `bound` folders deep
it is too long to be followed. -/
def walkWithin (disk : Disk) : (bound : Nat) → List Ancestor → String → Except WalkError (List String)
  | 0, _, path => .error (.io path .nameTooLong)
  | bound + 1, ancestors, path =>
    match disk.find path, disk.list path with
    | .ok (place, _), .ok entries =>
      let inner := (place, path) :: ancestors
      (entries.mapM fun (name, node) =>
        visit disk (walkWithin disk bound inner) inner (join path name) node).map List.flatten
    | .error e, _ | _, .error e => .error (.io path e)

def walk (disk : Disk) (path : String) : Except WalkError (List String) := do
  let node ← follow disk [] path
  visit disk (walkWithin disk Disk.pathLimit []) [] path node

def descriptorOf? (content : Bytes) : Option ServiceDescriptor :=
  (Text.decode? content).bind fun text =>
    (Toml.parse? text).bind fun entries => ServiceDescriptor.shape.ofToml (.table entries)

def descriptorAt? (disk : Disk) (path : String) : Option ServiceDescriptor :=
  if hasExtension "toml" path then
    match disk.read path with
    | .ok content => descriptorOf? content
    | .error _ => none
  else none

def loadServices (disk : Disk) (path : String) : Except WalkError (List ServiceDescriptor) :=
  if disk.pathExists path then (walk disk path).map fun paths => paths.filterMap (descriptorAt? disk)
  else .ok []

end Emplace.Files
