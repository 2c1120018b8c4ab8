import Emplace.Program.Pattern
import Emplace.Text.Numeral

namespace Emplace.Program

inductive Edge
  | lineStart
  | lineEnd
  | wordStart
  | wordEnd
  | boundary
  | noBoundary
  deriving DecidableEq, Repr, Inhabited

inductive Regex
  | empty
  | one (c : Char)
  | any
  | among (expected : Bool) (ranges : Ranges)
  | edge (e : Edge)
  | inOrder (first second : Regex)
  | either (first second : Regex)
  | repeated (body : Regex) (least : Nat) (most : Option Nat)
  | group (number : Nat) (body : Regex)
  | back (number : Nat)
  deriving DecidableEq, Repr, Inhabited

namespace Regex

structure Style where
  extended : Bool
  lenient : Bool
  deriving DecidableEq, Repr, Inhabited

inductive Fault
  | openGroup
  | closedGroup
  | openBracket
  | openBrace
  | braceContent
  | backReference
  | trailingBackslash
  | preceding
  | className
  | rangeEnd
  | cutShort
  | tooBig
  deriving DecidableEq, Repr, Inhabited

def Fault.text : Fault → String
  | .openGroup => "Unmatched ( or \\("
  | .closedGroup => "Unmatched ) or \\)"
  | .openBracket => "Unmatched [, [^, [:, [., or [="
  | .openBrace => "Unmatched \\\x7b"
  | .braceContent => "Invalid content of \\\x7b\\\x7d"
  | .backReference => "Invalid back reference"
  | .trailingBackslash => "Trailing backslash"
  | .preceding => "Invalid preceding regular expression"
  | .className => "Invalid character class name"
  | .rangeEnd => "Invalid range end"
  | .cutShort => "Invalid regular expression"
  | .tooBig => "Regular expression too big"

def wordRanges : Ranges := [('0', '9'), ('A', 'Z'), ('a', 'z'), ('_', '_')]

def spaceRanges : Ranges := [('\t', '\r'), (' ', ' ')]

inductive Token
  | atom (r : Regex)
  | opening
  | closing
  | bar
  | times (sign : Char) (least : Nat) (most : Option Nat)
  | broken (f : Fault)
  | star
  | caret
  | dollar
  deriving DecidableEq, Repr, Inhabited

def bracket : (bound : Nat) → (first : Bool) → List Char → Except Fault (Ranges × List Char)
  | 0, _, _ => .error .openBracket
  | _, first, [] => .error (if first then .cutShort else .openBracket)
  | bound + 1, first, c :: rest => do
    if c == ']' && !first then return ([], rest)
    let onward (found : Ranges) (rest : List Char) : Except Fault (Ranges × List Char) :=
      (bracket bound false rest).map fun (more, rest) => (found ++ more, rest)
    match if c == '[' then rest.head? else none with
    | some ':' =>
      match classAt? rest with
      | some (found, behind) => onward found behind
      | none => .error (if Text.occursIn [':', ']'] rest then .className else .openBracket)
    | some d =>
      if d == '.' || d == '=' then
        match rest.drop 1 with
        | e :: d' :: ']' :: behind => if d == d' then onward [(e, e)] behind else .error .openBracket
        | _ => .error .openBracket
      else single onward c rest
    | none => single onward c rest
where
  single (onward : Ranges → List Char → Except Fault (Ranges × List Char)) (c : Char) (rest : List Char) :
      Except Fault (Ranges × List Char) :=
    match rest with
    | '-' :: last :: behind =>
      if last == ']' then onward [(c, c)] rest
      else if c ≤ last then onward [(c, last)] behind
      else .error .rangeEnd
    | _ => onward [(c, c)] rest

def mostTimes : Nat := 0x7FFF

def inBraces? (style : Style) : List Char → Option (List Char × List Char)
  | [] => none
  | c :: rest =>
    match style.extended, c, rest with
    | true, '\x7d', rest | false, '\\', '\x7d' :: rest => some ([], rest)
    | _, _, _ => (inBraces? style rest).map fun (inside, rest) => (c :: inside, rest)

def bounds (inside : List Char) : Except Fault (Nat × Option Nat) :=
  let least := inside.takeWhile Char.isDigit
  let low := Text.digitsValue least
  let most := inside.drop (least.length + 1)
  let high := if least.length = inside.length then some low else Text.digits? most
  let isProper := if least.length = inside.length then !inside.isEmpty
    else inside.drop least.length = ',' :: most && most.all Char.isDigit
  if !isProper then .error .braceContent
  else if !(high.map fun n => decide (low ≤ n)).getD true then .error .braceContent
  else if mostTimes < max low (high.getD 0) then .error .tooBig
  else .ok (low, high)

def escaped? : Char → Option Regex
  | 'w' => some (.among true wordRanges)
  | 'W' => some (.among false wordRanges)
  | 's' => some (.among true spaceRanges)
  | 'S' => some (.among false spaceRanges)
  | 'b' => some (.edge .boundary)
  | 'B' => some (.edge .noBoundary)
  | '<' => some (.edge .wordStart)
  | '>' => some (.edge .wordEnd)
  | '\x60' => some (.edge .lineStart)
  | '\x27' => some (.edge .lineEnd)
  | _ => none

def brace (style : Style) (rest : List Char) : Token × List Char :=
  match inBraces? style rest with
  | none => if style.lenient && style.extended then (.atom (.one '\x7b'), rest) else (.broken .openBrace, [])
  | some (inside, behind) =>
    match bounds inside with
    | .ok (least, most) => (.times '\x7b' least most, behind)
    | .error .braceContent =>
      if style.lenient && style.extended && !inside.all (fun c => c.isDigit || c == ',') then
        (.atom (.one '\x7b'), rest)
      else (.broken .braceContent, behind)
    | .error f => (.broken f, behind)

def sign? (style : Style) (c : Char) (rest : List Char) : Option (Token × List Char) :=
  match c with
  | '(' => some (.opening, rest)
  | ')' => some (.closing, rest)
  | '|' => some (.bar, rest)
  | '+' => some (.times c 1 none, rest)
  | '?' => some (.times c 0 (some 1), rest)
  | '\x7b' => some (brace style rest)
  | _ => none

def tokens (style : Style) : (bound : Nat) → List Char → Except Fault (List Token)
  | 0, _ => .ok []
  | _, [] => .ok []
  | bound + 1, c :: rest => do
    let onward (t : Token) (rest : List Char) : Except Fault (List Token) := (tokens style bound rest).map (t :: ·)
    if c == '\\' then
      match rest with
      | [] => .error .trailingBackslash
      | d :: rest =>
        match if style.extended then none else sign? style d rest with
        | some (t, rest) => onward t rest
        | none =>
          if d.isDigit && d != '0' then onward (.atom (.back (Text.digitValue d))) rest
          else onward (.atom ((escaped? d).getD (.one d))) rest
    else if c == '[' then
      let negated := rest.head? == some '^'
      let (ranges, rest) ← bracket (rest.length + 1) true (if negated then rest.drop 1 else rest)
      onward (.atom (.among (!negated) ranges)) rest
    else if c == '.' then onward (.atom .any) rest
    else if c == '*' then onward .star rest
    else if c == '^' then onward .caret rest
    else if c == '$' then onward .dollar rest
    else
      match if style.extended then sign? style c rest else none with
      | some (t, rest) => onward t rest
      | none => onward (.atom (.one c)) rest

abbrev Outcome := Except Fault (Regex × Nat × List Token)

mutual

def branches (style : Style) (inside : Bool) : (bound groups : Nat) → List Token → Outcome
  | 0, groups, ts => .ok (.empty, groups, ts)
  | bound + 1, groups, ts => do
    let (first, groups, rest) ← branch style inside bound true groups ts
    match rest with
    | .bar :: rest =>
      let (second, groups, rest) ← branches style inside bound groups rest
      return (.either first second, groups, rest)
    | _ => return (first, groups, rest)

def branch (style : Style) (inside : Bool) : (bound : Nat) → (first : Bool) → (groups : Nat) → List Token → Outcome
  | 0, _, groups, ts => .ok (.empty, groups, ts)
  | bound + 1, first, groups, ts => do
    let onward (r : Regex) (groups : Nat) (rest : List Token) : Outcome := do
      let (r, rest) ← repetitions bound r rest
      let (more, groups, rest) ← branch style inside bound false groups rest
      return (.inOrder r more, groups, rest)
    match ts with
    | [] | .bar :: _ => return (.empty, groups, ts)
    | .closing :: rest =>
      if inside || !(style.lenient && style.extended) then return (.empty, groups, ts)
      else onward (.one ')') groups rest
    | .atom (.back n) :: rest => if n ≤ groups then onward (.back n) groups rest else .error .backReference
    | .atom r :: rest => onward r groups rest
    | .opening :: rest =>
      let number := groups + 1
      let (body, groups, rest) ← branches style true bound number rest
      match rest with
      | .closing :: rest => onward (.group number body) groups rest
      | _ => .error .openGroup
    | .caret :: rest =>
      if !first && !style.extended then onward (.one '^') groups rest
      else if style.lenient && style.extended then onward (.edge .lineStart) groups rest
      else
        let (more, groups, rest) ← branch style inside bound true groups rest
        return (.inOrder (.edge .lineStart) more, groups, rest)
    | .dollar :: rest =>
      let atEnd := match rest with
        | [] | .closing :: _ | .bar :: _ => true
        | _ => false
      if atEnd || style.extended then onward (.edge .lineEnd) groups rest else onward (.one '$') groups rest
    | .star :: rest =>
      if !style.extended then onward (.one '*') groups rest
      else if style.lenient then branch style inside bound first groups rest
      else .error .preceding
    | .times sign _ _ :: rest =>
      if style.extended && style.lenient then branch style inside bound first groups rest
      else if !style.extended && (style.lenient || sign ≠ '\x7b') then onward (.one sign) groups rest
      else .error .preceding
    | .broken f :: _ => .error (if style.lenient then f else .preceding)

def repetitions : (bound : Nat) → Regex → List Token → Except Fault (Regex × List Token)
  | 0, r, ts => .ok (r, ts)
  | bound + 1, r, ts =>
    match ts with
    | .star :: rest => repetitions bound (.repeated r 0 none) rest
    | .times _ least most :: rest => repetitions bound (.repeated r least most) rest
    | .broken f :: _ => .error f
    | _ => .ok (r, ts)

end

def ofText (style : Style) (text : List Char) : Except Fault Regex := do
  let ts ← tokens style (text.length + 1) text
  let (r, _, rest) ← branches style false (4 * (ts.length + 2)) 0 ts
  match rest with
  | [] => return r
  | _ => .error .closedGroup

def groupCount : Regex → Nat
  | .inOrder a b | .either a b => a.groupCount + b.groupCount
  | .repeated body _ _ => body.groupCount
  | .group _ body => body.groupCount + 1
  | _ => 0

def looksBack : Regex → Bool
  | .inOrder a b | .either a b => a.looksBack || b.looksBack
  | .repeated body _ _ | .group _ body => body.looksBack
  | .back _ => true
  | _ => false

structure Mode where
  folds : Bool
  lines : Bool
  deriving DecidableEq, Repr, Inhabited

structure Spot where
  before : List Char
  rest : List Char
  index : Nat
  kept : List (Nat × Nat × Nat)
  deriving DecidableEq, Repr, Inhabited

def Mode.same (m : Mode) (a b : Char) : Bool := a == b || m.folds && a.toLower == b.toLower

def Mode.has (m : Mode) (ranges : Ranges) (c : Char) : Bool :=
  ranges.has c || m.folds && (ranges.has c.toLower || ranges.has c.toUpper)

def fitsOne? (m : Mode) (c : Char) : Regex → Option Bool
  | .one d => some (m.same c d)
  | .any => some true
  | .among expected ranges => some (m.has ranges c == expected)
  | _ => none

def Spot.next? (s : Spot) : Option Spot :=
  match s.rest with
  | c :: rest => some { s with before := c :: s.before, rest := rest, index := s.index + 1 }
  | [] => none

def Spot.advance : Nat → Spot → Spot
  | 0, s => s
  | n + 1, s => Spot.advance n ((s.next?).getD s)

def Spot.isEdge (m : Mode) (s : Spot) (e : Edge) : Bool :=
  let isWord (c : Option Char) : Bool := (c.map wordRanges.has).getD false
  let before := isWord s.before.head?
  let behind := isWord s.rest.head?
  match e with
  | .lineStart => s.before.isEmpty || m.lines && s.before.head? == some '\n'
  | .lineEnd => s.rest.isEmpty || m.lines && s.rest.head? == some '\n'
  | .wordStart => !before && behind
  | .wordEnd => before && !behind
  | .boundary => before != behind
  | .noBoundary => before == behind

def distinct (exact : Bool) (spots : List Spot) : List Spot :=
  (spots.foldl
    (fun found s => if found.any fun (t : Spot) => t.index = s.index && (!exact || t.kept = s.kept) then found
      else s :: found)
    []).reverse

def repeatedEnds (exact : Bool) (ends : Spot → List Spot) : (bound least : Nat) → (most : Option Nat) → Spot → List Spot
  | 0, _, _, _ => []
  | bound + 1, least, most, s =>
    let onward := if most = some 0 then [] else
      ((ends s).filter fun t => 0 < least || s.index < t.index).flatMap
        (repeatedEnds exact ends bound (least - 1) (most.map (· - 1)))
    distinct exact (onward ++ if least = 0 then [s] else [])

def ends (m : Mode) (exact : Bool) : Regex → Spot → List Spot
  | .empty, s => [s]
  | .edge e, s => if s.isEdge m e then [s] else []
  | .inOrder a b, s => distinct exact ((a.ends m exact s).flatMap (b.ends m exact))
  | .either a b, s =>
    distinct exact ((a.ends m exact s ++ b.ends m exact s).mergeSort fun s t => t.index ≤ s.index)
  | .group n body, s =>
    (body.ends m exact s).map fun t =>
      { t with kept := (n, s.index, t.index) :: t.kept.filter (·.1 != n) }
  | .back n, s =>
    match s.kept.lookup n with
    | some (first, last) =>
      let text := (s.before.reverse.drop first).take (last - first)
      if text.length ≤ s.rest.length && (text.zip s.rest).all fun (a, b) => m.same a b then
        [s.advance text.length]
      else []
    | none => []
  | .repeated body least most, s =>
    match body with
    | .one _ | .any | .among _ _ =>
      let run := s.rest.takeWhile fun c => ((fitsOne? m c body).getD false)
      let longest := match most with
        | some most => min most run.length
        | none => run.length
      if longest < least then []
      else ((List.range (longest + 1 - least)).map fun i => s.advance (least + i)).reverse
    | body => repeatedEnds exact (body.ends m exact) (s.rest.length + least + 2) least most s
  | r, s =>
    match s.rest with
    | c :: _ => if (fitsOne? m c r).getD false then (s.next?).toList else []
    | [] => []

def longest? (m : Mode) (r : Regex) (s : Spot) : Option Spot :=
  (r.ends m r.looksBack s).foldl
    (fun found t =>
      match found with
      | some best => if best.index < t.index then some t else found
      | none => some t)
    none

def search? (m : Mode) (r : Regex) : (bound : Nat) → Spot → Option (Nat × Spot)
  | 0, _ => none
  | bound + 1, s =>
    match r.longest? m s with
    | some t => some (s.index, t)
    | none =>
      match s.next? with
      | some next => search? m r bound next
      | none => none

def Spot.startOf (text : List Char) : Spot := ⟨[], text, 0, []⟩

def occursIn (m : Mode) (r : Regex) (text : List Char) : Bool :=
  (r.search? m (text.length + 1) (Spot.startOf text)).isSome

def keptText (text : List Char) (first : Nat) (last : Spot) (number : Nat) : List Char :=
  let cut (a b : Nat) : List Char := (text.drop a).take (b - a)
  if number = 0 then cut first last.index
  else
    match last.kept.lookup number with
    | some (a, b) => cut a b
    | none => []

end Regex

end Emplace.Program
