namespace Emplace.Text

def isBlank (c : Char) : Bool :=
  let n := c.toNat
  (9 ≤ n && n ≤ 13) || n == 0x20 || n == 0x85 || n == 0xA0 || n == 0x1680 ||
    (0x2000 ≤ n && n ≤ 0x200A) || n == 0x2028 || n == 0x2029 || n == 0x202F || n == 0x205F ||
    n == 0x3000

def dropEndWhile (p : α → Bool) (xs : List α) : List α :=
  (xs.reverse.dropWhile p).reverse

def trimWhile (p : α → Bool) (xs : List α) : List α :=
  dropEndWhile p (xs.dropWhile p)

def trim (cs : List Char) : List Char :=
  trimWhile isBlank cs

def isAsciiBlank (b : UInt8) : Bool :=
  b == 0x20 || b == 0x09 || b == 0x0A || b == 0x0C || b == 0x0D

def trimAscii (bytes : List UInt8) : List UInt8 :=
  trimWhile isAsciiBlank bytes

def stripEnd? [BEq α] (tail xs : List α) : Option (List α) :=
  if tail.isSuffixOf xs then some (xs.take (xs.length - tail.length)) else none

def stripStart? [BEq α] : List α → List α → Option (List α)
  | [], xs => some xs
  | _ :: _, [] => none
  | h :: hs, x :: xs => if h == x then stripStart? hs xs else none

def occursIn [BEq α] (part : List α) : List α → Bool
  | [] => part.isEmpty
  | x :: xs => part.isPrefixOf (x :: xs) || occursIn part xs

end Emplace.Text
