import Emplace.Program.Finished
import Emplace.Text.Printable

namespace Emplace.Program

abbrev Utility := Surroundings → List String → Finished

def escapedByte (b : UInt8) : List Char :=
  match ([7, 8, 9, 10, 11, 12, 13, 92] : Bytes).idxOf? b with
  | some i => '\\' :: ("abtnvfr\\".toList.drop i).take 1
  | none =>
    let digit (n : Nat) : Char := Char.ofNat ('0'.toNat + n % 8)
    ['\\', digit (b.toNat / 64), digit (b.toNat / 8), digit b.toNat]

def glyphWidth? (bytes : Bytes) : Option Nat :=
  match Text.front bytes with
  | (some c, width) => if Text.isPlain c then some width else none
  | (none, _) => none

def quotedBytes : (bound : Nat) → Bytes → List Char
  | 0, _ => []
  | _, [] => []
  | bound + 1, b :: rest =>
    if (Text.bytesOf "’").isPrefixOf (b :: rest) then
      '\\' :: (Raw.ofText "’").toList ++ quotedBytes bound (rest.drop 2)
    else
      match if b = 92 then none else glyphWidth? (b :: rest) with
      | some width =>
        ((b :: rest).take width).map (fun b => Char.ofNat b.toNat) ++ quotedBytes bound (rest.drop (width - 1))
      | none => escapedByte b ++ quotedBytes bound rest

def inQuotes (s : String) : String :=
  Raw.ofText "‘" ++ String.ofList (quotedBytes (s.length + 1) (Raw.bytes s)) ++ Raw.ofText "’"

def isOrdinary (c : Char) (first alone : Bool) : Bool :=
  if c == '\x7b' || c == '\x7d' then !alone
  else if c == '#' || c == '~' then !first
  else c.isAlphanum || 128 ≤ c.toNat || ['/', '.', '-', '_', ',', '+', '@', '%', ']', ':'].contains c

def isPlainEverywhere (c : Char) : Bool :=
  c.isAlphanum || 128 ≤ c.toNat || [' ', '\x27', '%', '+', ',', '-', '.', '/', ':', ']', '_'].contains c

def pathRuns : (bound : Nat) → Bytes → List (Bool × List Char)
  | 0, _ => []
  | _, [] => []
  | bound + 1, b :: rest =>
    let (shown, part, rest) : Bool × List Char × Bytes := match glyphWidth? (b :: rest) with
      | some width =>
        (true, ((b :: rest).take width).map (fun b => Char.ofNat b.toNat), rest.drop (width - 1))
      | none => (false, escapedByte b, rest)
    match pathRuns bound rest with
    | (kind, run) :: runs => if kind = shown then (kind, part ++ run) :: runs else (shown, part) :: (kind, run) :: runs
    | [] => [(shown, part)]

def quotedRuns : List (Bool × List Char) → String
  | [] => "\x27"
  | (true, run) :: runs =>
    "\x27\\\x27\x27".intercalate ((String.ofList run).splitOn "\x27") ++ quotedRuns runs
  | (false, run) :: runs =>
    "\x27$\x27" ++ String.ofList run ++ (if runs.isEmpty then "" else "\x27\x27") ++ quotedRuns runs

def shownWord (word : String) : String :=
  let runs := pathRuns (word.length + 1) (Raw.bytes word)
  let isShown := runs.all Prod.fst
  match word.toList with
  | [] => "\x27\x27"
  | c :: cs =>
    if isShown && isOrdinary c true cs.isEmpty && cs.all fun c => isOrdinary c false false then word
    else if isShown && (c :: cs).contains '\x27' && (c :: cs).all isPlainEverywhere then "\"" ++ word ++ "\""
    else "\x27" ++ quotedRuns runs

def shownPath (path : String) : String :=
  let word := shownWord path
  if word = path && path.toList.contains ':' then "\x27" ++ path ++ "\x27" else word

def alwaysQuoted (path : String) : String :=
  let word := shownWord path
  if word = path then "\x27" ++ path ++ "\x27" else word

inductive Takes
  | nothing
  | value
  | perhaps
  deriving DecidableEq, Repr, Inhabited

/-- An option that a utility knows: its letter, its word if it has one, and what it takes. An option without a letter
of its own has one that no argument can name. -/
structure Known where
  letter : Char
  word : String
  takes : Takes
  deriving DecidableEq, Repr, Inhabited

def lettersKnown (letters : String) : List Known := letters.toList.map fun c => ⟨c, "", .nothing⟩

structure Given where
  letter : Char
  value : Option String
  deriving DecidableEq, Repr, Inhabited

abbrev GivenOptions := List Given

def GivenOptions.has (options : GivenOptions) (letter : Char) : Bool := options.any fun o => o.letter == letter

def GivenOptions.value? (options : GivenOptions) (letter : Char) : Option String :=
  (options.filter fun o => o.letter == letter).getLast?.bind Given.value

structure Grammar where
  name : String
  known : List Known
  status : Nat := 1
  mixed : Bool := true
  helps : Bool := true

namespace Grammar

def refuse (g : Grammar) (message : String) : Finished :=
  if g.helps then .puzzled g.name message g.status else .complained s!"{g.name}: {message}" g.status

def letters (g : Grammar) (rest : List String) : List Char → Except Finished (GivenOptions × List String)
  | [] => .ok ([], rest)
  | c :: cs =>
    let shown := "\x27" ++ c.toString ++ "\x27"
    match g.known.find? fun k => k.letter == c && 32 < c.toNat with
    | none => .error (g.refuse s!"invalid option -- {shown}")
    | some k =>
      match k.takes, cs, rest with
      | .nothing, _, _ => (g.letters rest cs).map fun (options, rest) => (⟨c, none⟩ :: options, rest)
      | .perhaps, [], _ => .ok ([⟨c, none⟩], rest)
      | .value, [], [] => .error (g.refuse s!"option requires an argument -- {shown}")
      | .value, [], value :: rest => .ok ([⟨c, some value⟩], rest)
      | _, _, _ => .ok ([⟨c, some (String.ofList cs)⟩], rest)

def word (g : Grammar) (arg : String) (rest : List String) : Except Finished (Given × List String) :=
  let body := arg.toList.drop 2
  let name := body.takeWhile (· != '=')
  let value := if name.length < body.length then some (String.ofList (body.drop (name.length + 1))) else none
  let matching := g.known.filter fun k => k.word ≠ "" && name.isPrefixOf k.word.toList
  let exact := matching.filter fun k => k.word = String.ofList name
  let found := if exact.isEmpty then matching else exact
  match found with
  | [] => .error (g.refuse s!"unrecognized option \x27--{String.ofList body}\x27")
  | k :: more =>
    if more.any fun other => other.letter ≠ k.letter then
      let words := String.join (found.map fun k => s!" \x27--{k.word}\x27")
      .error (g.refuse s!"option \x27{arg}\x27 is ambiguous; possibilities:{words}")
    else
      match k.takes, value, rest with
      | .nothing, some _, _ => .error (g.refuse s!"option \x27--{k.word}\x27 doesn\x27t allow an argument")
      | .value, none, [] => .error (g.refuse s!"option \x27--{k.word}\x27 requires an argument")
      | .value, none, value :: rest => .ok (⟨k.letter, some value⟩, rest)
      | _, _, _ => .ok (⟨k.letter, value⟩, rest)

def read (g : Grammar) : (bound : Nat) → List String → Except Finished (GivenOptions × List String)
  | 0, args => .ok ([], args)
  | _, [] => .ok ([], [])
  | bound + 1, arg :: rest =>
    match arg.toList with
    | ['-', '-'] => .ok ([], rest)
    | '-' :: '-' :: _ => do
      let (first, rest) ← g.word arg rest
      let (more, rest) ← g.read bound rest
      return (first :: more, rest)
    | '-' :: c :: letters => do
      let (first, rest) ← g.letters rest (c :: letters)
      let (more, rest) ← g.read bound rest
      return (first ++ more, rest)
    | _ =>
      if g.mixed then do
        let (options, rest) ← g.read bound rest
        return (options, arg :: rest)
      else .ok ([], arg :: rest)

def after (g : Grammar) (args : List String) (act : GivenOptions → List String → Finished) : Finished :=
  match g.read (args.length + 1) args with
  | .ok (options, rest) => act options rest
  | .error f => f

end Grammar

end Emplace.Program
