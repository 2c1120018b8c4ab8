import Emplace.Text.Blank

namespace Emplace.Program

structure Mark where
  char : Char
  literal : Bool
  deriving DecidableEq, Repr, Inhabited

abbrev Ranges := List (Char × Char)

def Ranges.has (ranges : Ranges) (c : Char) : Bool := ranges.any fun (first, last) => first ≤ c && c ≤ last

def punctuation : Ranges := [('!', '/'), (':', '@'), ('[', '\x60'), ('\x7b', '~')]

def classRanges : List (String × Ranges) :=
  [("alnum", [('0', '9'), ('A', 'Z'), ('a', 'z')]), ("alpha", [('A', 'Z'), ('a', 'z')]),
    ("blank", [(' ', ' '), ('\t', '\t')]), ("cntrl", [('\x00', '\x1f'), ('\x7f', '\x7f')]), ("digit", [('0', '9')]),
    ("graph", [('!', '~')]), ("lower", [('a', 'z')]), ("print", [(' ', '~')]), ("punct", punctuation),
    ("space", [('\t', '\r'), (' ', ' ')]), ("upper", [('A', 'Z')]),
    ("xdigit", [('0', '9'), ('A', 'F'), ('a', 'f')])]

def classAt? (cs : List Char) : Option (Ranges × List Char) :=
  match cs with
  | ':' :: rest =>
    let name := rest.takeWhile fun c => 'a' ≤ c && c ≤ 'z'
    match rest.drop name.length, classRanges.lookup (String.ofList name) with
    | ':' :: ']' :: behind, some ranges => some (ranges, behind)
    | _, _ => none
  | _ => none

inductive PatternItem
  | one (c : Char)
  | any
  | many
  | among (expected : Bool) (ranges : Ranges)
  deriving DecidableEq, Repr, Inhabited

abbrev Pattern := List PatternItem

namespace Pattern

def ranges : (bound : Nat) → (first : Bool) → List Mark → Option (Ranges × List Mark)
  | 0, _, _ => none
  | _, _, [] => none
  | bound + 1, first, m :: rest =>
    if m.char == ']' && !m.literal && !first then some ([], rest)
    else
      let onward (found : Ranges) (rest : List Mark) :=
        (ranges bound false rest).map fun (more, rest) => (found ++ more, rest)
      match if m.char == '[' && !m.literal then classAt? (rest.map Mark.char) else none with
      | some (found, behind) => onward found (rest.drop (rest.length - behind.length))
      | none =>
        match rest with
        | dash :: last :: behind =>
          if dash = ⟨'-', false⟩ && last ≠ ⟨']', false⟩ then onward [(m.char, last.char)] behind
          else onward [(m.char, m.char)] rest
        | _ => onward [(m.char, m.char)] rest

def ofMarks : (bound : Nat) → List Mark → Pattern
  | 0, _ => []
  | _, [] => []
  | bound + 1, m :: rest =>
    if m = ⟨'*', false⟩ then .many :: ofMarks bound rest
    else if m = ⟨'?', false⟩ then .any :: ofMarks bound rest
    else if m = ⟨'[', false⟩ then
      let negated := rest.head? = some ⟨'!', false⟩ || rest.head? = some ⟨'^', false⟩
      match ranges (rest.length + 1) true (if negated then rest.drop 1 else rest) with
      | some (found, behind) => .among (!negated) found :: ofMarks bound behind
      | none => .one m.char :: ofMarks bound rest
    else .one m.char :: ofMarks bound rest

def plain? (p : Pattern) : Option (List Char) :=
  p.mapM fun item => match item with
    | .one c => some c
    | _ => none

end Pattern

def PatternItem.fits (c : Char) : PatternItem → Bool
  | .one d => c == d
  | .any => true
  | .many => false
  | .among expected ranges => ranges.has c == expected

def Pattern.fits : Pattern → List Char → Bool
  | [], cs => cs.isEmpty
  | .many :: ps, cs =>
    Pattern.fits ps cs ||
      match cs with
      | [] => false
      | _ :: rest => Pattern.fits (.many :: ps) rest
  | _ :: _, [] => false
  | p :: ps, c :: cs => p.fits c && Pattern.fits ps cs
termination_by ps cs => (ps.length, cs.length)

def Pattern.withoutStart (longest : Bool) (p : Pattern) (cs : List Char) : List Char :=
  let ends := (List.range (cs.length + 1)).filter fun n => p.fits (cs.take n)
  match if longest then ends.getLast? else ends.head? with
  | some n => cs.drop n
  | none => cs

def Pattern.withoutEnd (longest : Bool) (p : Pattern) (cs : List Char) : List Char :=
  let starts := (List.range (cs.length + 1)).filter fun n => p.fits (cs.drop n)
  match if longest then starts.head? else starts.getLast? with
  | some n => cs.take n
  | none => cs

end Emplace.Program
