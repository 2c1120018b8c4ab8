import Emplace.Roster
import Emplace.SystemError
import Emplace.Files.Path

/-!
# File trees

Files, folders and symbolic links. A place in a tree is the list of names that leads there without passing a
link; `resolve` finds the place that steps with links among them lead to.
-/

namespace Emplace.Files

inductive Tree
  | file (content : Bytes)
  | device
  | folder (entries : List (String × Tree))
  | link (target : String)
  deriving Inhabited

abbrev Place := List String

namespace Tree

def at? : Place → Tree → Option Tree
  | [], tree => some tree
  | name :: rest, .folder entries =>
    match entries.lookup name with
    | some child => at? rest child
    | none => none
  | _ :: _, _ => none

def put (node : Tree) : Place → Tree → Tree
  | [], _ => node
  | [name], .folder entries => .folder (Roster.insertEntry name node entries)
  | name :: rest, .folder entries =>
    .folder (entries.map fun e => if e.1 = name then (e.1, put node rest e.2) else e)
  | _ :: _, tree => tree

def drop : Place → Tree → Tree
  | [], tree => tree
  | [name], .folder entries => .folder (entries.filter (·.1 != name))
  | name :: rest, .folder entries =>
    .folder (entries.map fun e => if e.1 = name then (e.1, drop rest e.2) else e)
  | _ :: _, tree => tree

def nameLimit : Nat := 255

def linkLimit : Nat := 40

inductive LastLink
  | followed
  | kept
  deriving DecidableEq, Repr, Inhabited

def resolveWith (root : Tree) (last : LastLink) (onward : Place → List String → Except SystemError Place) :
    Place → List String → Except SystemError Place
  | here, [] => .ok here
  | here, name :: rest =>
    match root.at? here with
    | none => .error .noSuchFile
    | some (.folder entries) =>
      if name = "." then resolveWith root last onward here rest
      else if name = ".." then resolveWith root last onward here.dropLast rest
      else if nameLimit < name.utf8ByteSize then .error .nameTooLong
      else
        match entries.lookup name with
        | none => if rest.isEmpty then .ok (here ++ [name]) else .error .noSuchFile
        | some (.link target) =>
          if rest.isEmpty && last = .kept then .ok (here ++ [name])
          else onward (if isAbsolute target then [] else here) (steps target ++ rest)
        | some _ => resolveWith root last onward (here ++ [name]) rest
    | some _ => .error .notADirectory

def resolve (root : Tree) (last : LastLink) : (links : Nat) → Place → List String → Except SystemError Place
  | 0 => root.resolveWith last fun _ _ => .error .tooManyLinks
  | links + 1 => root.resolveWith last (resolve root last links)

/-- Makes the folders on the way from the folder at `here` that are missing: the tree with those that could be made,
and where the way ends. A link that leads nowhere ends it early. -/
def makeFolders (root : Tree) (here : Place) : List String → Tree × Except SystemError Place
  | [] => (root, .ok here)
  | name :: rest =>
    match root.resolve .followed linkLimit here [name] with
    | .error e => (root, .error e)
    | .ok place =>
      match root.at? place with
      | some (.folder _) => makeFolders root place rest
      | some _ => (root, .error .notADirectory)
      | none =>
        if place = here ++ [name] then makeFolders (put (.folder []) place root) place rest
        else (root, .error .fileExists)

end Tree

end Emplace.Files
