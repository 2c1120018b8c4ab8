import Emplace.Files.Tree

namespace Emplace.Files

structure Disk where
  root : Tree
  working : Place
  deriving Inhabited

inductive Change
  | write (content : Bytes)
  | makeFolder
  | makeLink (target : String)
  | remove
  deriving Inhabited

namespace Disk

def pathLimit : Nat := 4096

def start (disk : Disk) (path : String) : Place := if isAbsolute path then [] else disk.working

def locate (disk : Disk) (last : Tree.LastLink) (path : String) : Except SystemError Place :=
  if path.toList.contains '\x00' then .error .nulInName
  else if path = "" then .error .noSuchFile
  else if pathLimit ≤ path.utf8ByteSize then .error .nameTooLong
  else disk.root.resolve last Tree.linkLimit (disk.start path) (steps path)

def find (disk : Disk) (path : String) : Except SystemError (Place × Tree) :=
  match disk.locate .followed path with
  | .error e => .error e
  | .ok place =>
    match disk.root.at? place with
    | some node => .ok (place, node)
    | none => .error .noSuchFile

def pathExists (disk : Disk) (path : String) : Bool := (disk.find path).isOk

def read (disk : Disk) (path : String) : Except SystemError Bytes :=
  match disk.find path with
  | .error e => .error e
  | .ok (_, .file content) => .ok content
  | .ok (_, .folder _) => .error .isADirectory
  | .ok _ => .ok []

def list (disk : Disk) (path : String) : Except SystemError (List (String × Tree)) :=
  match disk.find path with
  | .error e => .error e
  | .ok (_, .folder entries) => .ok (entries.foldr (fun e sorted => Roster.insertEntry e.1 e.2 sorted) [])
  | .ok _ => .error .notADirectory

def write (disk : Disk) (path : String) (content : Bytes) : Except SystemError Disk :=
  match disk.locate .followed path with
  | .error e => .error e
  | .ok place =>
    match disk.root.at? place with
    | some (.folder _) => .error .isADirectory
    | some .device => .ok disk
    | _ => .ok { disk with root := Tree.put (.file content) place disk.root }

def makeLink (disk : Disk) (path target : String) : Except SystemError Disk :=
  match disk.locate .kept path with
  | .error e => .error e
  | .ok place =>
    match disk.root.at? place with
    | some _ => .error .fileExists
    | none => .ok { disk with root := Tree.put (.link target) place disk.root }

def remove (disk : Disk) (path : String) : Except SystemError Disk :=
  match disk.locate .kept path with
  | .error e => .error e
  | .ok place =>
    match disk.root.at? place with
    | some _ => .ok { disk with root := Tree.drop place disk.root }
    | none => .error .noSuchFile

def makeFolders (disk : Disk) (path : String) (names : List String) : Disk × Except SystemError Place :=
  let (root, way) := disk.root.makeFolders (disk.start path) names
  ({ disk with root := root }, way)

/-- Carries out a change at a path; folders on the way are made first. A change that is refused leaves all else as
it is. -/
def change (disk : Disk) (path : String) (c : Change) : Disk :=
  match disk.makeFolders path (parents path) with
  | (ready, .error _) => ready
  | (ready, .ok _) =>
    match c with
    | .write content => (ready.write path content).toOption.getD ready
    | .makeFolder =>
      -- A last step on the spot names no folder that could be made.
      if (components path).getLast? = some "." then ready
      else (ready.makeFolders path (components path)).1
    | .makeLink target => (ready.makeLink path target).toOption.getD ready
    | .remove => (ready.remove path).toOption.getD ready

end Disk

end Emplace.Files
