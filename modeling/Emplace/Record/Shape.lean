import Emplace.Json.Reader
import Emplace.Toml.Value

/-!
# Shapes of records

A shape says how the values of a type are read from JSON text, written as JSON values, and taken from TOML
values. Shapes of records are put together from their fields: an object gives the fields by name and in any
order, a list gives them in the order of declaration, names that no field has are passed over.
-/

namespace Emplace

open Json (Fault Reader)

structure Shape (α : Type) where
  read : Reader α
  write : α → Json
  ofToml : Toml.Value → Option α

namespace Shape

def text : Shape String where
  read := Reader.string
  write := .text
  ofToml
    | .text s => some s
    | _ => none

def flag : Shape Bool where
  read := Reader.flag
  write := .flag
  ofToml
    | .flag b => some b
    | _ => none

def whole (toInt : α → Int) (ofInt? : Int → Option α) : Shape α where
  read := Reader.numberThat fun
    | .natural n => ofInt? n.toNat
    | .negative n => ofInt? n.toInt
    | .real _ => none
  write a := .whole (toInt a)
  ofToml
    | .integer n => ofInt? n
    | _ => none

def word16 : Shape UInt16 :=
  whole (fun n => n.toNat) fun n =>
    if 0 ≤ n ∧ n < UInt16.size then some (UInt16.ofNat n.toNat) else none

def word64 : Shape UInt64 :=
  whole (fun n => n.toNat) fun n =>
    if 0 ≤ n ∧ n < UInt64.size then some (UInt64.ofNat n.toNat) else none

def int32 : Shape Int32 :=
  whole Int32.toInt fun n =>
    if -0x80000000 ≤ n ∧ n < 0x80000000 then some (Int32.ofInt n) else none

def real : Shape Float where
  read := Reader.numberThat fun
    | .natural n => some n.toFloat
    | .negative n => some n.toFloat
    | .real x => some x
  write := Json.ofReal
  ofToml
    | .real x => some x
    | .integer n => some (Float.ofInt n)
    | _ => none

def optional (shape : Shape α) : Shape (Option α) where
  read := Reader.optional shape.read
  write
    | some a => shape.write a
    | none => .null
  ofToml v := (shape.ofToml v).map some

def list (shape : Shape α) : Shape (List α) where
  read := Reader.list shape.read
  write as := .list (as.map shape.write)
  ofToml
    | .list items => items.mapM shape.ofToml
    | _ => none

def readName (find : String → Option α) : Reader α := .afterBlanks fun input =>
  match input with
  | [] => .error .early
  | .char '"' :: rest => (Reader.stringBody.andThen named) rest
  | .char '{' :: rest =>
    (do
      let a ← key.andThen named
      Reader.colon
      unit
      closing
      return a : Reader α) rest
  | _ => .error .malformed
where
  named (name : String) : Reader α :=
    match find name with
    | some a => .yield a
    | none => .fail .mismatched
  key : Reader String := .afterBlanks fun input =>
    match input with
    | [] => .error .early
    | .char '"' :: rest => Reader.stringBody rest
    | _ => .error .malformed
  unit : Reader Unit := .afterBlanks fun input =>
    match input with
    | .char 'n' :: rest => Reader.word ['u', 'l', 'l'] rest
    | _ => Reader.mismatch input
  closing : Reader Unit := .afterBlanks fun input =>
    match input with
    | [] => .error .early
    | .char '}' :: rest => .ok ((), rest)
    | _ => .error .malformed

def named (find : String → Option α) (name : α → String) : Shape α where
  read := readName find
  write a := .text (name a)
  ofToml
    | .text s => find s
    | .table [(s, .table [])] => find s
    | .table [(s, .list [])] => find s
    | _ => none

end Shape

structure Field (β : Type) where
  name : String
  shape : Shape β
  /-- The value when an object lacks the field. -/
  absent : Option β := none
  /-- The value when a list ends before the field. -/
  short : Option β := none
  /-- Whether a value is left out of the written object. -/
  leftOut : β → Bool := fun _ => false

structure Fields (α : Type) where
  Slots : Type
  blank : Slots
  /-- Reads the value of a field by its name: the field has to exist, and reading is refused when it has been
  read before. -/
  take : String → Option (Slots → Option (Reader Slots))
  complete : Slots → Option α
  readList : Bool → Reader α
  write : α → List (String × Json)
  ofTable : (String → Option Toml.Value) → Option α
  ofList : List Toml.Value → Option α

namespace Fields

def none : Fields Unit where
  Slots := Unit
  blank := ()
  take _ := Option.none
  complete _ := some ()
  readList _ := .yield ()
  write _ := []
  ofTable _ := some ()
  ofList _ := some ()

def ended (field : Field β) : Reader β :=
  match field.short with
  | some b => .yield b
  | Option.none => .fail .mismatched

def cons (field : Field β) (rest : Fields α) : Fields (β × α) where
  Slots := Option β × rest.Slots
  blank := (Option.none, rest.blank)
  take name :=
    if name = field.name then
      some fun
        | (some _, _) => Option.none
        | (Option.none, slots) => some (field.shape.read.map fun b => (some b, slots))
    else
      (rest.take name).map fun next (slot, slots) =>
        (next slots).map fun reader => reader.map fun slots => (slot, slots)
  complete
    | (slot, slots) => do
      let b ← slot <|> field.absent
      let a ← rest.complete slots
      return (b, a)
  readList first := do
    if ← Reader.another first then
      let b ← field.shape.read
      let a ← rest.readList false
      return (b, a)
    else
      let b ← ended field
      let a ← rest.readList first
      return (b, a)
  write
    | (b, a) => (if field.leftOut b then [] else [(field.name, field.shape.write b)]) ++ rest.write a
  ofTable lookup := do
    let b ← match lookup field.name with
      | some v => field.shape.ofToml v
      | Option.none => field.absent
    let a ← rest.ofTable lookup
    return (b, a)
  ofList
    | [] => do
      let b ← field.short
      let a ← rest.ofList []
      return (b, a)
    | v :: vs => do
      let b ← field.shape.ofToml v
      let a ← rest.ofList vs
      return (b, a)

def objectStep (fields : Fields α) (state : Bool × fields.Slots) :
    Reader ((Bool × fields.Slots) ⊕ α) := do
  match ← Reader.nextKey state.1 with
  | Option.none =>
    match fields.complete state.2 with
    | some a =>
      Reader.objectEnd
      return .inr a
    | Option.none => .fail .mismatched
  | some key =>
    match fields.take key with
    | Option.none =>
      Reader.colon
      Reader.skipValue
      return .inl (false, state.2)
    | some next =>
      match next state.2 with
      | Option.none => .fail .mismatched
      | some reader =>
        Reader.colon
        let slots ← reader
        return .inl (false, slots)

def read (fields : Fields α) : Reader α := .afterBlanks fun input =>
  match input with
  | .char '{' :: rest => Reader.iterate fields.objectStep (true, fields.blank) rest
  | .char '[' :: rest =>
    (do
      let a ← fields.readList true
      Reader.listEnd
      return a : Reader α) rest
  | _ => Reader.mismatch input

end Fields

namespace Shape

def record (fields : Fields α) (make : α → ρ) (parts : ρ → α) : Shape ρ where
  read := fields.read.map make
  write r := .object (fields.write (parts r))
  ofToml
    | .table entries => (fields.ofTable fun name => entries.lookup name).map make
    | .moment => (fields.ofTable fun _ => Option.none).map make
    | .list items => (fields.ofList items).map make
    | _ => Option.none

end Shape

end Emplace
