namespace Emplace

abbrev Bytes := List UInt8

namespace Text

def encodeChar (c : Char) : Bytes :=
  let n := c.toNat
  if n < 0x80 then [UInt8.ofNat n]
  else if n < 0x800 then [UInt8.ofNat (0xC0 + n / 64), UInt8.ofNat (0x80 + n % 64)]
  else if n < 0x10000 then
    [UInt8.ofNat (0xE0 + n / 4096), UInt8.ofNat (0x80 + n / 64 % 64), UInt8.ofNat (0x80 + n % 64)]
  else
    [UInt8.ofNat (0xF0 + n / 262144), UInt8.ofNat (0x80 + n / 4096 % 64),
      UInt8.ofNat (0x80 + n / 64 % 64), UInt8.ofNat (0x80 + n % 64)]

def encode (cs : List Char) : Bytes := cs.flatMap encodeChar

def bytesOf (s : String) : Bytes := encode s.toList

def isTail (b : UInt8) : Bool := 0x80 ≤ b.toNat && b.toNat ≤ 0xBF

/-- The range of the second byte after lead byte `a` of a character of three or four bytes: no overlong
forms, no surrogates, nothing beyond the last code point. -/
def secondRange (a : Nat) : Nat × Nat :=
  if a = 0xE0 then (0xA0, 0xBF)
  else if a = 0xED then (0x80, 0x9F)
  else if a = 0xF0 then (0x90, 0xBF)
  else if a = 0xF4 then (0x80, 0x8F)
  else (0x80, 0xBF)

def isSecond (a b : UInt8) : Bool :=
  (secondRange a.toNat).1 ≤ b.toNat && b.toNat ≤ (secondRange a.toNat).2

def tailBits (b : UInt8) : Nat := b.toNat - 0x80

/-- What stands at the front of `bytes`: the character with its width, or nothing with the width of the
longest prefix that could have begun one. -/
def front : Bytes → Option Char × Nat
  | [] => (none, 0)
  | a :: rest =>
    let n := a.toNat
    if n < 0x80 then (some (Char.ofNat n), 1)
    else if 0xC2 ≤ n ∧ n ≤ 0xDF then
      match rest with
      | b :: _ => if isTail b then (some (Char.ofNat ((n - 0xC0) * 64 + tailBits b)), 2) else (none, 1)
      | [] => (none, 1)
    else if 0xE0 ≤ n ∧ n ≤ 0xEF then
      match rest with
      | b :: c :: _ =>
        if isSecond a b then
          if isTail c then
            (some (Char.ofNat ((n - 0xE0) * 4096 + tailBits b * 64 + tailBits c)), 3)
          else (none, 2)
        else (none, 1)
      | [b] => (none, if isSecond a b then 2 else 1)
      | [] => (none, 1)
    else if 0xF0 ≤ n ∧ n ≤ 0xF4 then
      match rest with
      | b :: c :: d :: _ =>
        if isSecond a b then
          if isTail c then
            if isTail d then
              (some (Char.ofNat
                ((n - 0xF0) * 262144 + tailBits b * 4096 + tailBits c * 64 + tailBits d)), 4)
            else (none, 3)
          else (none, 2)
        else (none, 1)
      | [b, c] => (none, if isSecond a b then (if isTail c then 3 else 2) else 1)
      | [b] => (none, if isSecond a b then 2 else 1)
      | [] => (none, 1)
    else (none, 1)

inductive Symbol
  | char (c : Char)
  | stray (b : UInt8)
  deriving DecidableEq, Repr, Inhabited

def symbols (bytes : Bytes) : List Symbol :=
  match bytes with
  | [] => []
  | a :: rest =>
    match front (a :: rest) with
    | (some c, width) => .char c :: symbols (rest.drop (width - 1))
    | (none, _) => .stray a :: symbols rest
termination_by bytes.length
decreasing_by all_goals (simp only [List.length_cons, List.length_drop]; omega)

def Symbol.char? : Symbol → Option Char
  | .char c => some c
  | .stray _ => none

def Symbol.width : Symbol → Nat
  | .char c => (encodeChar c).length
  | .stray _ => 1

def Symbol.totalWidth (symbols : List Symbol) : Nat :=
  symbols.foldl (fun n symbol => n + symbol.width) 0

def decode? (bytes : Bytes) : Option (List Char) :=
  (symbols bytes).mapM Symbol.char?

def stringOf? (bytes : Bytes) : Option String :=
  (decode? bytes).map String.ofList

/-- Reads bytes as text; each maximal broken prefix becomes one replacement character. -/
def lossy (bytes : Bytes) : List Char :=
  match bytes with
  | [] => []
  | a :: rest =>
    match front (a :: rest) with
    | (some c, width) => c :: lossy (rest.drop (width - 1))
    | (none, width) => '\ufffd' :: lossy (rest.drop (width - 1))
termination_by bytes.length
decreasing_by all_goals (simp only [List.length_cons, List.length_drop]; omega)

def lossyString (bytes : Bytes) : String := String.ofList (lossy bytes)

end Text

end Emplace
