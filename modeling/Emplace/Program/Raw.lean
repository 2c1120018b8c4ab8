import Emplace.Text.Utf8

/-!
# Raw texts

Programs see bytes where people see characters. In a raw text each character stands for one byte, so that texts are
cut, counted and compared as programs do it, and no byte is lost on the way from one program to the next.
-/

namespace Emplace.Program.Raw

def ofBytes (bytes : Bytes) : String := String.ofList (bytes.map fun b => Char.ofNat b.toNat)

def bytesOf (cs : List Char) : Bytes := cs.map fun c => UInt8.ofNat c.toNat

def bytes (s : String) : Bytes := bytesOf s.toList

def ofText (s : String) : String := ofBytes (Text.bytesOf s)

def toText (s : String) : String := Text.lossyString (bytes s)

/-- Where the characters start that stand for bytes that are no part of a character. -/
def strayStart : Nat := 0x10FF00

def characters (bytes : Bytes) : List Char :=
  (Text.symbols bytes).map fun symbol => match symbol with
    | .char c => c
    | .stray b => Char.ofNat (strayStart + b.toNat)

def bytesOfCharacters (cs : List Char) : Bytes :=
  cs.flatMap fun c => if strayStart ≤ c.toNat then [UInt8.ofNat (c.toNat - strayStart)] else Text.encodeChar c

theorem bytes_ofBytes (b : Bytes) : bytes (ofBytes b) = b := by
  simp only [bytes, bytesOf, ofBytes, String.toList_ofList, List.map_map]
  conv => rhs; rw [← List.map_id b]
  refine List.map_congr_left fun x _ => ?_
  have valid : x.toNat.isValidChar := Or.inl (Nat.lt_of_lt_of_le x.toNat_lt (by decide))
  have back : (Char.ofNat x.toNat).toNat = x.toNat := by
    rw [Char.ofNat, dif_pos valid]
    rfl
  simp [back]

end Emplace.Program.Raw
