import Emplace.Program.Shell.Expansion

namespace Emplace.Program.Shell

open Files (Disk)

def isSlashMark (m : Mark) : Bool := m.char == '/'

def marksText (marks : List Mark) : List Char := marks.map Mark.char

def hasSigns (marks : List Mark) : Bool := ((Pattern.ofMarks (marks.length + 1) marks).plain?).isNone

def splitAtSigns : (bound : Nat) → List Mark → Option (List Mark × List Mark × List Mark)
  | 0, _ => none
  | bound + 1, marks =>
    let slashes := marks.takeWhile isSlashMark
    let rest := marks.drop slashes.length
    let name := rest.takeWhile fun m => !isSlashMark m
    let behind := rest.drop name.length
    if hasSigns name then some (slashes, name, behind)
    else if behind.isEmpty then none
    else (splitAtSigns bound behind).map fun (front, found, behind) => (slashes ++ name ++ front, found, behind)

def namesIn (disk : Disk) (path : List Char) : List (List Char) :=
  let folder := if path.isEmpty then "." else Raw.toText (String.ofList path)
  match disk.list folder with
  | .ok entries => ['.'] :: ['.', '.'] :: entries.map fun (name, _) => (Raw.ofText name).toList
  | .error _ => []

def standsAt (disk : Disk) (path : List Char) : Bool :=
  match disk.locate .kept (Raw.toText (String.ofList path)) with
  | .ok place =>
    match disk.root.at? place with
    | some (.folder _) => true
    | some _ => path.getLast? != some '/'
    | none => false
  | .error _ => false

def pathsFitting (disk : Disk) : (bound : Nat) → (front : List Char) → List Mark → List (List Char)
  | 0, _, _ => []
  | bound + 1, front, marks =>
    match splitAtSigns (marks.length + 1) marks with
    | none =>
      let path := front ++ marksText marks
      if standsAt disk path then [path] else []
    | some (before, name, behind) =>
      let folder := front ++ marksText before
      let pattern := Pattern.ofMarks (name.length + 1) name
      let showsDots := name.head?.map Mark.char == some '.'
      let fitting := (namesIn disk folder).filter fun n =>
        (showsDots || n.head? != some '.') && pattern.fits n
      if behind.isEmpty then fitting.map (folder ++ ·)
      else fitting.flatMap fun n => pathsFitting disk bound (folder ++ n ++ ['/']) (behind.drop 1)

def fieldTexts (s : State) (field : List Glyph) : List String :=
  let marks := marksOf field
  let asItStands := [textOf field]
  if s.isOn 'f' || !hasSigns marks then asItStands
  else
    let found := pathsFitting s.disk (marks.length + 1) [] marks
    let ordered := (found.map String.ofList).mergeSort fun a b => a ≤ b
    if ordered.isEmpty then asItStands else ordered

end Emplace.Program.Shell
