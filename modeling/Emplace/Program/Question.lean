import Emplace.Program.Finished
import Emplace.Text.Blank
import Emplace.Text.Numeral

namespace Emplace.Program

open Files (Disk Tree)

def programFolder : Files.Place := ["usr", "bin"]

def stickyPlaces : List Files.Place := [["tmp"], ["var", "tmp"]]

def fileQuestion? (disk : Disk) (letter : Char) : Option (String → Bool) :=
  let found (path : String) : Option (Files.Place × Tree) := (disk.find (Raw.toText path)).toOption
  let asks (answer : Files.Place → Tree → Bool) : Option (String → Bool) :=
    some fun path => (found path).any fun (place, node) => answer place node
  match letter with
  | 'e' | 'r' | 'w' | 'O' | 'G' => asks fun _ _ => true
  | 'f' => asks fun _ node => match node with
    | .file _ => true
    | _ => false
  | 'd' => asks fun _ node => match node with
    | .folder _ => true
    | _ => false
  | 'x' => asks fun place node => match node with
    | .folder _ => true
    | .file _ => place.dropLast = programFolder
    | _ => false
  | 's' => asks fun _ node => match node with
    | .file content => !content.isEmpty
    | .folder _ => true
    | _ => false
  | 'L' | 'h' => some fun path =>
    match (disk.locate .kept (Raw.toText path)).toOption.bind fun place => disk.root.at? place with
    | some (.link _) => true
    | _ => false
  | 'c' => asks fun _ node => match node with
    | .device => true
    | _ => false
  | 'k' => asks fun place _ => stickyPlaces.contains place
  | 'b' | 'p' | 'S' | 'u' | 'g' => some fun _ => false
  | _ => none

def sameFile (disk : Disk) (a b : String) : Bool :=
  match disk.find (Raw.toText a), disk.find (Raw.toText b) with
  | .ok (p, _), .ok (q, _) => p = q
  | _, _ => false

def wholeOperand? (text : String) : Option Int :=
  let read (cs : List Char) : Option Int := (Text.digits? cs).map fun n => (n : Int)
  match Text.trimWhile (fun c => c == ' ' || '\t' ≤ c && c ≤ '\r') text.toList with
  | '-' :: digits => (read digits).map (- ·)
  | '+' :: digits => read digits
  | digits => read digits

def comparisons : List (String × (Int → Int → Bool)) :=
  [("-eq", fun a b => a = b), ("-ne", fun a b => a ≠ b), ("-lt", fun a b => a < b), ("-le", fun a b => a ≤ b),
    ("-gt", fun a b => b < a), ("-ge", fun a b => b ≤ a)]

end Emplace.Program
