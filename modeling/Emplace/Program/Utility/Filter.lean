import Emplace.Program.Utility.Input

namespace Emplace.Program.Utility

def visibleByte (b : UInt8) : Bytes :=
  let low (n : Nat) : Bytes := if n < 32 then [94, UInt8.ofNat (n + 64)] else if n = 127 then [94, 63] else [UInt8.ofNat n]
  if b.toNat < 128 then low b.toNat else [77, 45] ++ low (b.toNat - 128)

def lineNumber (width n : Nat) : Bytes :=
  let digits := toString n
  Raw.bytes (String.ofList (List.replicate (width - digits.length) ' ') ++ digits)

def cat : Utility := fun found args =>
  let known := lettersKnown "etu" ++
    [⟨'A', "show-all", .nothing⟩, ⟨'b', "number-nonblank", .nothing⟩, ⟨'E', "show-ends", .nothing⟩,
      ⟨'n', "number", .nothing⟩, ⟨'s', "squeeze-blank", .nothing⟩, ⟨'T', "show-tabs", .nothing⟩,
      ⟨'v', "show-nonprinting", .nothing⟩]
  Grammar.after { name := "cat", known := known } args fun options paths =>
    let asked (letters : String) : Bool := letters.toList.any options.has
    let shown (b : UInt8) : Bytes :=
      if b = 9 then if asked "tTA" then [94, 73] else [9]
      else if asked "vAet" then visibleByte b else [b]
    let line (l : Bytes) : Bytes :=
      let body := withoutEnd 10 l
      body.flatMap shown ++ (if body.length < l.length then (if asked "eEA" then [36, 10] else [10]) else [])
    let numbered (state : Nat × Nat × List Bytes) (l : Bytes) : Nat × Nat × List Bytes :=
      let (n, blanks, done) := state
      let isBlank := l = [10]
      if isBlank && asked "s" && 1 ≤ blanks then (n, blanks, done)
      else
        let counts := asked "b" && !isBlank || asked "n" && !asked "b"
        (if counts then n + 1 else n, if isBlank then blanks + 1 else 0,
          ((if counts then lineNumber 6 n ++ [9] else []) ++ line l) :: done)
    withAll "cat" found paths fun bytes =>
      if options.all fun o => o.letter == 'u' then .printed bytes
      else .printed ((linesOf bytes).foldl numbered (1, 0, [])).2.2.reverse.flatten

def tac : Utility := fun found args =>
  let known := [⟨'b', "before", .nothing⟩, ⟨'r', "regex", .nothing⟩, ⟨'s', "separator", .value⟩]
  Grammar.after { name := "tac", known := known } args fun _ paths =>
    overInputs found paths fun path content =>
      match content with
      | .ok bytes => .printed (linesOf bytes).reverse.flatten
      | .error .isADirectory => .complained s!"tac: {shownPath path}: read error: {SystemError.words .isADirectory}" 1
      | .error e =>
        .complained s!"tac: failed to open {alwaysQuoted path} for reading: {e.words}" 1

structure Portion where
  bytes : Bool
  turned : Bool
  count : Nat
  deriving DecidableEq, Repr, Inhabited

def Portion.start (p : Portion) (last : UInt8) (text : Bytes) : Bytes :=
  let take {α : Type} (xs : List α) : List α := if p.turned then xs.take (xs.length - p.count) else xs.take p.count
  if p.bytes then take text else (take (recordsOf last text)).flatten

def Portion.ending (p : Portion) (last : UInt8) (text : Bytes) : Bytes :=
  let take {α : Type} (xs : List α) : List α :=
    if p.turned then xs.drop (p.count - 1) else xs.drop (xs.length - p.count)
  if p.bytes then take text else (take (recordsOf last text)).flatten

def portion (name : String) (sign : Char) (bytes : Bool) (value : String) : Except Finished Portion :=
  let (turned, digits) := match value.toList with
    | c :: digits => if c == sign then (true, String.ofList digits) else (false, value)
    | [] => (false, value)
  let digits := if sign == '+' && digits.toList.head? == some '-' then String.ofList (digits.toList.drop 1) else digits
  match count? digits with
  | some n => .ok ⟨bytes, turned, n⟩
  | none =>
    let unit := if bytes then "bytes" else "lines"
    .error (.complained (s!"{name}: invalid number of {unit}: " ++ inQuotes value) 1)

def portionOf (name : String) (sign : Char) (options : GivenOptions) : Except Finished Portion :=
  match (options.filter fun o => o.letter == 'c' || o.letter == 'n').getLast? with
  | some o => portion name sign (o.letter == 'c') (o.value.getD "")
  | none => .ok ⟨false, false, 10⟩

def portionOptions : List Known :=
  [⟨'c', "bytes", .value⟩, ⟨'n', "lines", .value⟩, ⟨'q', "quiet", .nothing⟩, ⟨'q', "silent", .nothing⟩,
    ⟨'v', "verbose", .nothing⟩, ⟨'z', "zero-terminated", .nothing⟩]

def portions (name : String) (found : Surroundings) (options : GivenOptions) (paths : List String)
    (cut : String → Bytes → Bytes) : Finished :=
  let titled := !options.has 'q' && (options.has 'v' || 1 < paths.length)
  let done := overInputs found paths fun path content =>
    match content with
    | .ok bytes =>
      let label := if path = "-" then "standard input" else path
      .printed ((if titled then Raw.bytes s!"\n==> {label} <==\n" else []) ++ cut path bytes)
    | .error .isADirectory =>
      let fault := Finished.complained s!"{name}: error reading {alwaysQuoted path}: {SystemError.words .isADirectory}" 1
      { fault with stdout := if titled then Raw.bytes s!"\n==> {path} <==\n" else [] }
    | .error e => .complained s!"{name}: cannot open {alwaysQuoted path} for reading: {e.words}" 1
  { done with stdout := if titled then done.stdout.drop 1 else done.stdout }

def countAsOption (signs : List Char) (args : List String) : List String :=
  match args with
  | first :: rest =>
    match first.toList with
    | sign :: c :: digits =>
      if signs.contains sign && c.isDigit then
        let text := (if sign == '+' then ['+'] else []) ++ c :: digits
        let count := text.takeWhile fun c => c.isDigit || c == '+'
        match text.drop count.length with
        | [] => "-n" :: String.ofList count :: rest
        | ['c'] => "-c" :: String.ofList count :: rest
        | _ => args
      else args
    | _ => args
  | [] => []

/-- The start of its input or of files. The zeros that a device gives do not end. -/
def head : Utility := fun found args =>
  Grammar.after { name := "head", known := portionOptions } (countAsOption ['-'] args) fun options paths =>
    match portionOf "head" '-' options with
    | .error f => f
    | .ok p =>
      let cut (path : String) (bytes : Bytes) : Bytes :=
        if path = "/dev/zero" && p.bytes then List.replicate p.count 0 else p.start (recordEnd options) bytes
      let done := portions "head" found options paths cut
      let rest := found.input.drop (cut "-" found.input).length
      { done with unread := done.unread.map fun _ => if found.isFile then rest else rest.drop 8192 }

def tail : Utility := fun found args =>
  let known := portionOptions ++ [⟨'f', "follow", .perhaps⟩, ⟨'s', "sleep-interval", .value⟩]
  Grammar.after { name := "tail", known := known } (countAsOption ['-', '+'] args) fun options paths =>
    match portionOf "tail" '+' options with
    | .error f => f
    | .ok p => portions "tail" found options paths fun _ bytes => p.ending (recordEnd options) bytes

def wideRanges : List (Nat × Nat) :=
  [(0x1100, 0x115F), (0x2E80, 0x303E), (0x3041, 0x33FF), (0x3400, 0x4DBF), (0x4E00, 0x9FFF), (0xA000, 0xA4CF),
    (0xAC00, 0xD7A3), (0xF900, 0xFAFF), (0xFE30, 0xFE6F), (0xFF00, 0xFF60), (0xFFE0, 0xFFE6), (0x1F300, 0x1F64F),
    (0x1F900, 0x1F9FF), (0x20000, 0x3FFFD)]

def columnBehind (column : Nat) : Text.Symbol → Nat
  | .char '\t' => (column / 8 + 1) * 8
  | .char c =>
    if !Text.isPlain c then column else if Text.inRanges wideRanges c.toNat then column + 2 else column + 1
  | .stray _ => column

def longestLine (bytes : Bytes) : Nat :=
  let turns : List Text.Symbol := ['\n', '\r', '\x0c'].map .char
  let (widest, column) := (Text.symbols bytes).foldl
    (fun (widest, column) s => if turns.contains s then (max widest column, 0) else (widest, columnBehind column s))
    ((0 : Nat), (0 : Nat))
  max widest column

def wordCount (bytes : Bytes) : Nat :=
  let isSpace (b : UInt8) : Bool := b = 32 || (9 ≤ b && b ≤ 13)
  (bytes.foldl
    (fun (n, inside) b => if isSpace b then (n, false) else (if inside then n else n + 1, true))
    ((0 : Nat), false)).1

def measures : List (Char × (Bytes → Nat)) :=
  [('l', (·.count 10)), ('w', wordCount), ('m', fun bytes => ((Text.symbols bytes).filterMap Text.Symbol.char?).length),
    ('c', List.length), ('L', longestLine)]

def wc : Utility := fun found args =>
  let known := [⟨'c', "bytes", .nothing⟩, ⟨'m', "chars", .nothing⟩, ⟨'l', "lines", .nothing⟩,
    ⟨'L', "max-line-length", .nothing⟩, ⟨'w', "words", .nothing⟩]
  Grammar.after { name := "wc", known := known } args fun options paths =>
    let asked := if options.isEmpty then ['l', 'w', 'c'] else options.map Given.letter
    let wanted := measures.filter fun (letter, _) => asked.contains letter
    let inputs := contents found false (orInput paths)
    let isRegular (path : String) : Bool :=
      if isInput path then found.isFile
      else match found.disk.find (Raw.toText path) with
        | .ok (_, .file _) => true
        | _ => false
    let stands (path : String) : Bool := isInput path || found.disk.pathExists (Raw.toText path)
    let sizes := (inputs.filter fun (path, _) => isRegular path).map fun (_, content) =>
      (content.toOption.getD []).length
    let least := if inputs.all fun (path, _) => isRegular path || !stands path then 1 else 7
    let width := if inputs.length = 1 && wanted.length = 1 then 1 else max least (toString (sizes.foldl (· + ·) 0)).length
    let row (counts : List Nat) (label : String) : Bytes :=
      [(32 : UInt8)].intercalate (counts.map fun n => lineNumber width n) ++
        Raw.bytes (if label = "" then "\n" else s!" {label}\n")
    let countsOf (bytes : Bytes) : List Nat := wanted.map fun (_, measure) => measure bytes
    let done := overInputs found paths fun path content =>
      let label := if paths.isEmpty then "" else shownLabel path
      match content with
      | .ok bytes => .printed (row (countsOf bytes) label)
      | .error .isADirectory =>
        { Finished.complained s!"wc: {shownPath path}: {SystemError.words .isADirectory}" 1 with
          stdout := row (wanted.map fun _ => 0) label }
      | .error e => pathFault "wc" path e
    let add (totals counts : List Nat) : List Nat :=
      (wanted.zip (totals.zip counts)).map fun ((letter, _), a, b) => if letter == 'L' then max a b else a + b
    let totals := inputs.foldl (fun totals (_, content) => add totals (countsOf (content.toOption.getD [])))
      (wanted.map fun _ => 0)
    if paths.length ≤ 1 then done else { done with stdout := done.stdout ++ row totals "total" }
where
  shownLabel (path : String) : String := if path.toList.contains '\n' then shownWord path else path

def rev : Utility := fun found args =>
  Grammar.after { name := "rev", known := [] } args fun _ paths =>
    let turned (l : Bytes) : Bytes :=
      let body := withoutEnd 10 l
      Text.encode (Text.lossy body).reverse ++ l.drop body.length
    overInputs found paths fun path content =>
      match content with
      | .ok bytes => .printed ((linesOf bytes).flatMap turned)
      | .error .isADirectory => .complained s!"rev: {path}: {SystemError.words .isADirectory}" 1
      | .error e => .complained s!"rev: cannot open {path}: {e.words}" 1

end Emplace.Program.Utility
