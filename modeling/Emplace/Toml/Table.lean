import Emplace.Toml.Value

/-!
# Putting TOML tables together

A document names its tables by headers and by dotted keys. What a table may still take in depends on how it
came to be: a table with a header of its own is closed to further headers and to dotted keys from outside,
one implied by a longer header may still get its own header, one made by a dotted key only grows through
dotted keys.
-/

namespace Emplace.Toml

inductive Origin
  | header
  | implied
  | dotted
  deriving DecidableEq, Repr, Inhabited

inductive Node
  | leaf (value : Value)
  | table (origin : Origin) (entries : List (String × Node))
  | tables (items : List (List (String × Node)))
  deriving Inhabited

abbrev Entries := List (String × Node)

namespace Entries

def alter (key : String) (change : Option Node → Option Node) : Entries → Option Entries
  | [] => (change none).map fun node => [(key, node)]
  | (k, node) :: rest =>
    if k = key then (change (some node)).map fun node' => (k, node') :: rest
    else (alter key change rest).map ((k, node) :: ·)

/-- Walks down a path and changes the table at its end. Missing tables are made on the way, of origin
`made`; a walk by dotted keys does not enter a table with a header of its own. -/
def descend (made : Origin) (change : Origin → Entries → Option Entries) :
    List String → Origin → Entries → Option Entries
  | [], origin, entries => change origin entries
  | key :: path, _, entries =>
    entries.alter key fun
      | none => (descend made change path made []).map (.table made)
      | some (.leaf _) => none
      | some (.tables items) =>
        match items.reverse with
        | [] => none
        | last :: before =>
          (descend made change path .header last).map fun last' => .tables (last' :: before).reverse
      | some (.table origin inner) =>
        if made = .dotted ∧ origin = .header then none
        else (descend made change path origin inner).map (.table origin)

def insert (path : List String) (key : String) (value : Value) (entries : Entries) :
    Option Entries :=
  descend .dotted
    (fun origin entries =>
      if (origin == .dotted) == path.isEmpty then none
      else
        entries.alter key fun
          | none => some (.leaf value)
          | some _ => none)
    path .header entries

def openTable (path : List String) (key : String) (entries : Entries) : Option Entries :=
  descend .implied
    (fun _ entries =>
      entries.alter key fun
        | none => some (.table .header [])
        | some (.table .implied inner) => some (.table .header inner)
        | some _ => none)
    path .header entries

def openListed (path : List String) (key : String) (entries : Entries) : Option Entries :=
  descend .implied
    (fun _ entries =>
      entries.alter key fun
        | none => some (.tables [[]])
        | some (.tables items) => some (.tables (items ++ [[]]))
        | some _ => none)
    path .header entries

end Entries

mutual

def Node.toValue : Node → Value
  | .leaf value => value
  | .table _ entries => .table (entriesToValues entries)
  | .tables items => .list (tablesToValues items)

def entriesToValues : List (String × Node) → List (String × Value)
  | [] => []
  | (key, node) :: rest => (key, node.toValue) :: entriesToValues rest

def tablesToValues : List (List (String × Node)) → List Value
  | [] => []
  | entries :: rest => .table (entriesToValues entries) :: tablesToValues rest

end

end Emplace.Toml
