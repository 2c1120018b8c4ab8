import Emplace.Program.Regex
import Emplace.Program.Utility.Filter

namespace Emplace.Program.Utility

namespace Finding

inductive Extent
  | part
  | words
  | line
  deriving DecidableEq, Repr, Inhabited

structure Search where
  patterns : List Regex
  folds : Bool
  extent : Extent
  turned : Bool
  deriving Inhabited

def literal (cs : List Char) : Regex := cs.foldr (fun c r => .inOrder (.one c) r) .empty

def Search.longest? (q : Search) (s : Regex.Spot) : Option Regex.Spot :=
  let mode : Regex.Mode := ⟨q.folds, false⟩
  let fits (t : Regex.Spot) : Bool :=
    match q.extent with
    | .part => true
    | .line => s.index = 0 && t.rest.isEmpty
    | .words =>
      let isWord (c : Option Char) : Bool := (c.map Regex.wordRanges.has).getD false
      !isWord s.before.head? && !isWord t.rest.head?
  let ends := q.patterns.flatMap fun r => (r.ends mode r.looksBack s).filter fits
  ends.foldl
    (fun found t =>
      match found with
      | some best => if best.index < t.index then some t else found
      | none => some t)
    none

def Search.first? (q : Search) : (bound : Nat) → Regex.Spot → Option (Regex.Spot × Regex.Spot)
  | 0, _ => none
  | bound + 1, s =>
    match q.longest? s, s.next? with
    | some t, _ => some (s, t)
    | none, some next => first? q bound next
    | none, none => none

def Search.wants (q : Search) (line : List Char) : Bool :=
  (q.first? (line.length + 1) (.startOf line)).isSome != q.turned

def Search.all (q : Search) : (bound : Nat) → Regex.Spot → List (Nat × List Char)
  | 0, _ => []
  | bound + 1, s =>
    match q.first? (s.rest.length + 1) s with
    | none => []
    | some (start, last) =>
      if start.index < last.index then
        (start.index, start.rest.take (last.index - start.index)) :: q.all bound last
      else
        match start.next? with
        | some next => q.all bound next
        | none => []

structure Row where
  number : Nat
  offset : Nat
  bytes : Bytes
  wanted : Bool
  deriving DecidableEq, Repr, Inhabited

def Search.rows (q : Search) (most : Option Nat) (behind : Nat) (lines : List Bytes) : List Row :=
  let row (state : Nat × Nat × Nat × List Row) (line : Bytes) : Nat × Nat × Nat × List Row :=
    let (number, offset, count, rows) := state
    let isOver := (most.map fun most => decide (most ≤ count)).getD false
    let wanted := !isOver && q.wants (Raw.characters line)
    (number + 1, offset + line.length + 1, if wanted then count + 1 else count, ⟨number, offset, line, wanted⟩ :: rows)
  let (_, _, count, rows) := lines.foldl row (1, 0, 0, [])
  let isOver := (most.map fun most => decide (most ≤ count)).getD false
  if isOver then
    let trailing := (rows.takeWhile fun r => !r.wanted).length
    (rows.drop (trailing - behind)).reverse
  else rows.reverse

def near (before behind : Nat) (rows : List Row) : List (Option Row) :=
  let wanted := (rows.filter Row.wanted).map Row.number
  let isNear (r : Row) : Bool := wanted.any fun n => n ≤ r.number + before && r.number ≤ n + behind
  let kept := if before = 0 && behind = 0 then rows.filter Row.wanted else rows.filter isNear
  let marked (state : Option Nat × List (Option Row)) (r : Row) : Option Nat × List (Option Row) :=
    let gap := (state.1.map fun n => decide (n + 1 < r.number)).getD false
    (some r.number, some r :: (if gap then [none] else []) ++ state.2)
  (kept.foldl marked (none, [])).2.reverse

end Finding

open Finding (Search Row)

def grepGrammar : Grammar where
  name := "grep"
  status := 2
  known := lettersKnown "yP0123456789" ++
    [⟨'A', "after-context", .value⟩, ⟨'a', "text", .nothing⟩, ⟨'B', "before-context", .value⟩,
      ⟨'b', "byte-offset", .nothing⟩, ⟨'C', "context", .value⟩, ⟨'c', "count", .nothing⟩,
      ⟨'d', "directories", .value⟩, ⟨'E', "extended-regexp", .nothing⟩, ⟨'e', "regexp", .value⟩,
      ⟨'F', "fixed-strings", .nothing⟩, ⟨'f', "file", .value⟩, ⟨'G', "basic-regexp", .nothing⟩,
      ⟨'H', "with-filename", .nothing⟩, ⟨'h', "no-filename", .nothing⟩, ⟨'i', "ignore-case", .nothing⟩,
      ⟨'\x01', "no-ignore-case", .nothing⟩, ⟨'L', "files-without-match", .nothing⟩,
      ⟨'l', "files-with-matches", .nothing⟩, ⟨'m', "max-count", .value⟩, ⟨'n', "line-number", .nothing⟩,
      ⟨'o', "only-matching", .nothing⟩, ⟨'P', "perl-regexp", .nothing⟩, ⟨'q', "quiet", .nothing⟩,
      ⟨'q', "silent", .nothing⟩, ⟨'r', "recursive", .nothing⟩, ⟨'s', "no-messages", .nothing⟩,
      ⟨'v', "invert-match", .nothing⟩, ⟨'w', "word-regexp", .nothing⟩, ⟨'x', "line-regexp", .nothing⟩,
      ⟨'z', "null-data", .nothing⟩, ⟨'\x02', "color", .perhaps⟩, ⟨'\x02', "colour", .perhaps⟩,
      ⟨'T', "initial-tab", .nothing⟩, ⟨'U', "binary", .nothing⟩, ⟨'\x03', "line-buffered", .nothing⟩]

def grepUsage : String := "Usage: grep [OPTION]... PATTERNS [FILE]...\nTry \x27grep --help\x27 for more information."

def grepRefusal (f : Finished) : Finished :=
  let message := ((Raw.ofBytes f.stderr).splitOn "\n").headD ""
  .complained s!"{message}\n{grepUsage}" 2

def isBinaryText (last : UInt8) (bytes : Bytes) : Bool := last ≠ 0 && bytes.contains 0

def loneSigns (first : Bool) : List Char → List String
  | [] => []
  | '\\' :: _ :: rest => loneSigns false rest
  | c :: rest =>
    if c == '(' || c == '|' || c == '^' then loneSigns true rest
    else
      let own : List String :=
        if !first then []
        else if c == '*' || c == '+' || c == '?' then [c.toString]
        else if c == '\x7b' && (rest.head?.map Char.isDigit).getD false then ["\x7b...\x7d"]
        else []
      own ++ loneSigns (!own.isEmpty) rest

def grepSearch (options : GivenOptions) (patterns : List Bytes) : Except Finished (Search × List String) := do
  let kind := ((options.filter fun o => ['E', 'F', 'G', 'P'].contains o.letter).getLast?.map Given.letter).getD 'G'
  let style : Regex.Style := ⟨kind == 'E' || kind == 'P', true⟩
  let compiled ← patterns.mapM fun pattern =>
    let cs := Raw.characters pattern
    if kind == 'F' then .ok (Finding.literal cs)
    else
      match Regex.ofText style cs with
      | .ok r => .ok r
      | .error f => .error (.complained s!"grep: {f.text}" 2)
  let warnings := if kind != 'E' then [] else
    (patterns.flatMap fun pattern => loneSigns true (Raw.characters pattern)).map fun sign =>
      s!"grep: warning: {sign} at start of expression\n"
  let case := options.filter fun o => ['i', 'y', '\x01'].contains o.letter
  let extent : Finding.Extent := if options.has 'x' then .line else if options.has 'w' then .words else .part
  return (⟨compiled, ((case.getLast?.map Given.letter).getD '\x01') != '\x01', extent, options.has 'v'⟩, warnings)

def grepContext (options : GivenOptions) : Except Finished (Option (Nat × Nat)) := do
  let digits := options.filter fun o => o.letter.isDigit
  let number (value : String) : Except Finished Nat :=
    match Text.digits? value.toList with
    | some n => .ok n
    | none => .error (.complained s!"grep: {value}: invalid context length argument" 2)
  let standard ← match options.value? 'C' with
    | some value => some <$> number value
    | none => .ok (if digits.isEmpty then none else some (Text.digitsValue (digits.map Given.letter)))
  let given (letter : Char) : Except Finished (Option Nat) := (options.value? letter).mapM number
  let before ← given 'B'
  let behind ← given 'A'
  if standard.isNone && before.isNone && behind.isNone then return none
  return some ((before <|> standard).getD 0, (behind <|> standard).getD 0)

structure RowStyle where
  name : Option String
  numbers : Bool
  offsets : Bool
  last : UInt8
  deriving DecidableEq, Repr, Inhabited

def RowStyle.front (style : RowStyle) (sign : String) (number offset : Nat) : Bytes :=
  Raw.bytes <|
    ((style.name.map (· ++ sign)).getD "") ++ (if style.numbers then s!"{number}{sign}" else "") ++
      (if style.offsets then s!"{offset}{sign}" else "")

def shownRows (q : Search) (style : RowStyle) (parts strict : Bool) : List (Option Row) → Bytes × Bool
  | [] => ([], false)
  | none :: rows =>
    let (bytes, stopped) := shownRows q style parts strict rows
    (if parts then bytes else Raw.bytes "--\n" ++ bytes, stopped)
  | some r :: rows =>
    if strict && (Text.decode? r.bytes).isNone then ([], true)
    else
      let own : Bytes :=
        if parts then
          if q.turned || !r.wanted then []
          else
            let cs := Raw.characters r.bytes
            (q.all (cs.length + 1) (.startOf cs)).flatMap fun (start, text) =>
              let offset := r.offset + (Raw.bytesOfCharacters (cs.take start)).length
              style.front ":" r.number offset ++ Raw.bytesOfCharacters text ++ [style.last]
        else style.front (if r.wanted then ":" else "-") r.number r.offset ++ r.bytes ++ [style.last]
      let (bytes, stopped) := shownRows q style parts strict rows
      (own ++ bytes, stopped)

def grepPatterns (found : Surroundings) (options : GivenOptions) (args : List String) :
    Except Finished (List Bytes × List String) := do
  let given := options.filter fun o => o.letter == 'e' || o.letter == 'f'
  let split (bytes : Bytes) : List Bytes := if bytes.isEmpty then [[]] else bareLines (bytes ++ [10])
  let texts ← given.mapM fun o =>
    let value := o.value.getD ""
    if o.letter == 'e' then .ok (split (Raw.bytes value))
    else
      match contentOf found value with
      | .ok bytes => .ok (bareLines bytes)
      | .error e => .error (.complained s!"grep: {value}: {e.words}" 2)
  match given, args with
  | [], [] => .error (.complained grepUsage 2)
  | [], pattern :: rest => return (split (Raw.bytes pattern), rest)
  | _, rest => return (texts.flatten, rest)

def grepInput (options : GivenOptions) (q : Search) (context : Option (Nat × Nat)) (most : Option Nat) (titled : Bool)
    (path : String) (bytes : Bytes) : Finished :=
  let last := recordEnd options
  let (before, behind) := context.getD (0, 0)
  let name := if path = "-" then "(standard input)" else path
  let rows := q.rows most behind (bareRecords last bytes)
  let count := (rows.filter Row.wanted).length
  let status : Ending := .exited (if count = 0 then 1 else 0)
  let title := if titled then some name else none
  if options.has 'q' then { ending := status }
  else if options.has 'L' then
    { stdout := if count = 0 then Raw.bytes (name ++ "\n") else [], ending := status }
  else if options.has 'l' then
    { stdout := if count = 0 then [] else Raw.bytes (name ++ "\n"), ending := status }
  else if options.has 'c' then
    { stdout := Raw.bytes (((title.map (· ++ ":")).getD "") ++ s!"{count}\n"), ending := status }
  else
    let strict := !options.has 'a'
    let style : RowStyle := ⟨title, options.has 'n', options.has 'b', last⟩
    let notice := Raw.bytes s!"grep: {name}: binary file matches\n"
    if strict && isBinaryText last bytes then
      { stderr := if count = 0 then [] else notice, ending := status }
    else
      let shown := if context.isSome then Finding.near before behind rows else (rows.filter Row.wanted).map some
      let (out, stopped) := shownRows q style (options.has 'o') strict shown
      { stdout := out, stderr := if stopped then notice else [], ending := status }

def grep : Utility := fun found args =>
  match grepGrammar.read (args.length + 1) args with
  | .error f => grepRefusal f
  | .ok (options, args) =>
    let kinds := (options.map Given.letter).filter ['E', 'F', 'G', 'P'].contains
    let most := (options.value? 'm').map fun value => Text.digits? value.toList
    match grepContext options with
    | .error f => f
    | .ok context =>
      if most = some none then .complained "grep: invalid max count" 2
      else if kinds.any fun c => c ≠ kinds.headD 'G' then .complained "grep: conflicting matchers specified" 2
      else
        match grepPatterns found options args with
        | .error f => f
        | .ok (patterns, paths) =>
          match grepSearch options patterns with
          | .error f => f
          | .ok (q, warnings) =>
            let titled := options.has 'H' || 1 < paths.length && !options.has 'h'
            let skipsFolders := options.value? 'd' = some "skip" || options.has 'r'
            let inputs := contents found false (orInput paths)
            let each := inputs.map fun (path, content) =>
              match content with
              | .ok bytes => grepInput options q context (most.bind id) titled path bytes
              | .error .isADirectory =>
                if skipsFolders then .silent 1
                else if options.has 's' then .silent 2
                else .complained s!"grep: {path}: {SystemError.words .isADirectory}" 2
              | .error e => if options.has 's' then .silent 2 else .complained s!"grep: {path}: {e.words}" 2
            let separator := if context.isSome && context ≠ some (0, 0) && !options.has 'o' && !options.has 'c' &&
              !options.has 'l' && !options.has 'L' then Raw.bytes "--\n" else []
            let outs := (each.map Finished.stdout).filter fun out => !out.isEmpty
            let isFound := each.any fun f => f.ending = .exited 0
            let isFaulty := each.any fun f => f.ending = .exited 2
            { stdout := separator.intercalate outs
              stderr := Raw.bytes (String.join warnings) ++ (each.flatMap Finished.stderr)
              ending := .exited (if isFaulty && !(isFound && options.has 'q') then 2 else if isFound then 0 else 1)
              unread := if inputs.any fun (path, _) => isInput path then some [] else none }

def oldGrep (option : String) : Utility := fun found args => grep found (option :: args)

end Emplace.Program.Utility
