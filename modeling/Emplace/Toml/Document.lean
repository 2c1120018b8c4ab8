import Emplace.Toml.Scalar
import Emplace.Toml.Table

namespace Emplace.Toml

open Reader

/-- Values nest less deeply than this, and keys have fewer parts. -/
def depthLimit : Nat := 80

def isBareChar (c : Char) : Bool := c.isAlphanum || c == '-' || c == '_'

def keyPart : Reader String := fun input =>
  match input with
  | '"' :: _ | '\'' :: _ => shortString input
  | _ => (run1 isBareChar input).map fun (cs, rest) => (String.ofList cs, rest)

def keyStep (read : List String) : Reader (List String ⊕ List String) := do
  skipSpaces
  let part ← keyPart
  skipSpaces
  fun input =>
    match input with
    | '.' :: rest => some (.inl (part :: read), rest)
    | _ => some (.inr (part :: read), input)

def key : Reader (List String × String) := do
  match ← iterate keyStep [] with
  | last :: before =>
    if before.length + 1 < depthLimit then return (before.reverse, last) else refuse
  | [] => refuse

def skipFiller : Reader Unit :=
  iterate (fun _ input =>
    match input with
    | [] => some (.inr (), input)
    | c :: rest =>
      if isSpace c then some (.inl (), rest)
      else if c = '#' then (skipComment input).map fun (_, rest) => (.inl (), rest)
      else
        match newline input with
        | some (_, rest) => some (.inl (), rest)
        | none => some (.inr (), input)) ()

def listStep (element : Reader Value) (read : List Value) : Reader (List Value ⊕ Value) := do
  skipFiller
  fun input =>
    match input with
    | ']' :: rest => some (.inr (.list read.reverse), rest)
    | _ =>
      (do
        let v ← element
        skipFiller
        fun input =>
          match input with
          | ',' :: rest => some (.inl (v :: read), rest)
          | ']' :: rest => some (.inr (.list (v :: read).reverse), rest)
          | _ => none : Reader (List Value ⊕ Value)) input

def inlineStep (element : Reader Value) (read : Entries) : Reader (Entries ⊕ Value) := do
  let (path, last) ← key
  exactly ['=']
  skipSpaces
  let v ← element
  skipSpaces
  match read.insert path last v with
  | none => refuse
  | some entries =>
    fun input =>
      match input with
      | ',' :: rest => some (.inl entries, rest)
      | '}' :: rest => some (.inr (.table (entriesToValues entries)), rest)
      | _ => none

def inlineTable (element : Reader Value) : Reader Value := do
  skipSpaces
  fun input =>
    match input with
    | '}' :: rest => some (.table [], rest)
    | _ => iterate (inlineStep element) [] input

def scalar : Reader Value := fun input =>
  match input with
  | '"' :: _ | '\'' :: _ => (string input).map fun (s, rest) => (.text s, rest)
  | 't' :: _ => (exactly ['t', 'r', 'u', 'e'] input).map fun (_, rest) => (.flag true, rest)
  | 'f' :: _ => (exactly ['f', 'a', 'l', 's', 'e'] input).map fun (_, rest) => (.flag false, rest)
  | _ => numberOrMoment input

def value : Nat → Reader Value
  | 0 => scalar
  | depth + 1 => fun input =>
    match input with
    | '[' :: rest => iterate (listStep (value depth)) [] rest
    | '{' :: rest => inlineTable (value depth) rest
    | _ => scalar input

def lineEnd : Reader Unit := do
  skipSpaces
  let _ ← opt skipComment
  fun input =>
    match input with
    | [] => some ((), [])
    | _ => newline input

structure Draft where
  root : Entries
  open? : Option (List String × String)
  deriving Inhabited

def Draft.add (draft : Draft) (path : List String) (last : String) (v : Value) : Option Draft :=
  let root := match draft.open? with
    | none => draft.root.insert path last v
    | some (before, name) =>
      Entries.descend .implied (fun _ entries => entries.insert path last v) (before ++ [name]) .header
        draft.root
  root.map ({ draft with root := · })

def header (draft : Draft) : Reader Draft := fun input =>
  match input with
  | '[' :: rest =>
    (do
      let (path, last) ← key
      exactly [']', ']']
      lineEnd
      opened path last (draft.root.openListed path last) : Reader Draft) rest
  | _ =>
    (do
      let (path, last) ← key
      exactly [']']
      lineEnd
      opened path last (draft.root.openTable path last) : Reader Draft) input
where
  opened (path : List String) (last : String) (root : Option Entries) : Reader Draft :=
    match root with
    | some root => pure ⟨root, some (path, last)⟩
    | none => refuse

def keyValue (draft : Draft) : Reader Draft := do
  let (path, last) ← key
  exactly ['=']
  skipSpaces
  let v ← value (depthLimit - 1)
  lineEnd
  match draft.add path last v with
  | some draft => pure draft
  | none => refuse

def lineStep (draft : Draft) : Reader (Draft ⊕ Draft) := do
  skipSpaces
  fun input =>
    match input with
    | [] => some (.inr draft, [])
    | '#' :: _ => (lineEnd input).map fun (_, rest) => (.inl draft, rest)
    | '[' :: rest => (header draft rest).map fun (draft, rest) => (.inl draft, rest)
    | c :: _ =>
      if c = '\n' ∨ c = '\r' then (newline input).map fun (_, rest) => (.inl draft, rest)
      else (keyValue draft input).map fun (draft, rest) => (.inl draft, rest)

/-- The entries of the root table of a document. A byte order mark at the front is skipped. -/
def parse? (text : List Char) : Option (List (String × Value)) :=
  let body := match text with
    | '\ufeff' :: rest => rest
    | _ => text
  (iterate lineStep ⟨[], none⟩ body).map fun (draft, _) => entriesToValues draft.root

end Emplace.Toml
