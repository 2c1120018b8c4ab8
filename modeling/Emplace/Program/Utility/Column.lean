import Emplace.Program.Regex
import Emplace.Program.Utility.Filter

namespace Emplace.Program.Utility

namespace Cutting

structure Span where
  first : Nat
  last : Option Nat
  deriving DecidableEq, Repr, Inhabited

def Span.has (s : Span) (n : Nat) : Bool := s.first ≤ n && (s.last.map fun last => decide (n ≤ last)).getD true

inductive Unit
  | fields
  | bytes
  deriving DecidableEq, Repr, Inhabited

def Unit.counted : Unit → String
  | .fields => "fields are numbered from 1"
  | .bytes => "byte/character positions are numbered from 1"

def Unit.value : Unit → String
  | .fields => "invalid field value "
  | .bytes => "invalid byte/character position "

def Unit.range : Unit → String
  | .fields => "invalid field range"
  | .bytes => "invalid byte or character range"

def Unit.place : Unit → String
  | .fields => "field number"
  | .bytes => "byte/character offset"

def Span.ofText (unit : Unit) (part whole : List Char) : Except String Span := do
  let isPlaceChar (c : Char) : Bool := c.isDigit || c == '-'
  if !part.all isPlaceChar then
    -- The whole rest of the list is shown, from the first character that is out of place.
    .error (unit.value ++ inQuotes (String.ofList (whole.dropWhile isPlaceChar)))
  let number (digits : List Char) : Except String (Option Nat) :=
    match Text.digits? digits with
    | some n =>
      if n < Text.maxWord64 then .ok (some n)
      else .error (unit.place ++ " " ++ inQuotes (String.ofList digits) ++ " is too large")
    | none => .ok none
  match (String.ofList part).splitOn "-" with
  | [one] =>
    match ← number one.toList with
    | some n => if n = 0 then .error unit.counted else return ⟨n, some n⟩
    | none => .error unit.counted
  | [first, last] =>
    match ← number first.toList, ← number last.toList with
    | none, none => .error "invalid range with no endpoint: -"
    | some 0, _ => .error unit.counted
    | some a, none => return ⟨a, none⟩
    | a, some b => if b < a.getD 1 then .error "invalid decreasing range" else return ⟨a.getD 1, some b⟩
  | _ => .error unit.range

def spans (unit : Unit) : (bound : Nat) → (whole : List Char) → Except String (List Span)
  | 0, _ => .ok []
  | bound + 1, whole => do
    let isEnd (c : Char) : Bool := c == ',' || c == ' ' || c == '\t'
    let (part, rest) := whole.span fun c => !isEnd c
    let first ← Span.ofText unit part whole
    match rest with
    | [] => return [first]
    | _ :: rest => return first :: (← spans unit bound rest)

def joined : List Span → List Span
  | a :: rest =>
    match joined rest with
    | b :: more =>
      if (a.last.map fun last => decide (b.first ≤ last)).getD true then
        ⟨a.first, do return max (← a.last) (← b.last)⟩ :: more
      else a :: b :: more
    | [] => [a]
  | [] => []

def spansOf (unit : Unit) (text : String) : Except String (List Span) := do
  let found ← spans unit (text.length + 1) text.toList
  return joined (found.mergeSort fun a b => a.first ≤ b.first)

def gaps : (from_ : Nat) → List Span → List Span
  | n, [] => [⟨n, none⟩]
  | n, s :: rest =>
    let before : List Span := if n < s.first then [⟨n, some (s.first - 1)⟩] else []
    match s.last with
    | some last => before ++ gaps (last + 1) rest
    | none => before

def bytesAt (spans : List Span) (delimiter : Option Bytes) (line : Bytes) : Bytes :=
  let parts := (spans.map fun s =>
    (match s.last with
      | some last => line.take last
      | none => line).drop (s.first - 1)).filter fun part => !part.isEmpty
  (delimiter.getD []).intercalate parts

def cutAt (sign : UInt8) (line : Bytes) : List Bytes :=
  line.foldr
    (fun b parts => if b = sign then [] :: parts else
      match parts with
      | part :: more => (b :: part) :: more
      | [] => [[b]])
    [[]]

/-- The fields of a line at some places; a line without separators has one field, which all places mean. -/
def fieldsAt (spans : List Span) (separator : UInt8) (delimiter : Bytes) (strict : Bool) (line : Bytes) :
    Option Bytes :=
  match cutAt separator line with
  | [_] => if strict then none else some line
  | fields =>
    let kept := (fields.zipIdx 1).filter fun (_, n) => spans.any fun s => s.has n
    some (delimiter.intercalate (kept.map Prod.fst))

end Cutting

def cut : Utility := fun found args =>
  let known := [⟨'b', "bytes", .value⟩, ⟨'c', "characters", .value⟩, ⟨'f', "fields", .value⟩,
    ⟨'d', "delimiter", .value⟩, ⟨'n', "", .nothing⟩, ⟨'s', "only-delimited", .nothing⟩,
    ⟨'\x01', "output-delimiter", .value⟩, ⟨'\x02', "complement", .nothing⟩, ⟨'z', "zero-terminated", .nothing⟩]
  Grammar.after { name := "cut", known := known } args fun options paths =>
    let lists := options.filter fun o => ['b', 'c', 'f'].contains o.letter
    let delimiter := (options.value? 'd').map Raw.bytes
    let last := recordEnd options
    let refuse (message : String) : Finished := .puzzled "cut" message
    let isLong := (delimiter.map fun d => decide (1 < d.length)).getD false
    match lists with
    | [] =>
      refuse (if isLong then "the delimiter must be a single character"
        else "you must specify a list of bytes, characters, or fields")
    | _ :: _ :: _ => refuse "only one list may be specified"
    | [list] =>
      let unit : Cutting.Unit := if list.letter == 'f' then .fields else .bytes
      if isLong then refuse "the delimiter must be a single character"
      else if unit = .bytes && delimiter.isSome then
        refuse "an input delimiter may be specified only when operating on fields"
      else if unit = .bytes && options.has 's' then
        refuse "suppressing non-delimited lines makes sense\n\tonly when operating on fields"
      else
        match Cutting.spansOf unit (list.value.getD "") with
        | .error message => refuse message
        | .ok spans =>
          let spans := if options.has '\x02' then Cutting.gaps 1 spans else spans
          let separator := match delimiter with
            | some d => d.headD 0
            | none => 9
          let between := match (options.value? '\x01').map Raw.bytes with
            | some [] => some [0]
            | given => given
          let lines (bytes : Bytes) : List Bytes :=
            match unit with
            | .bytes => (bareRecords last bytes).map (Cutting.bytesAt spans between)
            | .fields =>
              let records := if separator = last then (if bytes.isEmpty then [] else [withoutEnd last bytes])
                else bareRecords last bytes
              records.filterMap (Cutting.fieldsAt spans separator (between.getD [separator]) (options.has 's'))
          overInputs found paths fun path content =>
            match content with
            | .ok bytes => .printed (joinRecords last (lines bytes))
            | .error e => pathFault "cut" path e

def delimiters : List Char → Option (List Bytes)
  | [] => some []
  | ['\\'] => none
  | '\\' :: c :: rest =>
    let own : Bytes := match ['b', 'f', 'n', 'r', 't', 'v'].idxOf? c with
      | some i => ([8, 12, 10, 13, 9, 11] : Bytes).drop i |>.take 1
      | none => if c == '0' then [] else [UInt8.ofNat c.toNat]
    (delimiters rest).map (own :: ·)
  | c :: rest => (delimiters rest).map ([UInt8.ofNat c.toNat] :: ·)

def between (delimiters : List Bytes) (parts : List Bytes) : Bytes :=
  match parts with
  | [] => []
  | first :: rest =>
    first ++ (rest.zipIdx.flatMap fun (part, i) => (delimiters[i % max 1 delimiters.length]?).getD [] ++ part)

def sharedLines (lines : List Bytes) (takers taker : Nat) : List Bytes :=
  (lines.zipIdx.filter fun (_, i) => i % max 1 takers = taker).map Prod.fst

def paste : Utility := fun found args =>
  let known := [⟨'d', "delimiters", .value⟩, ⟨'s', "serial", .nothing⟩, ⟨'z', "zero-terminated", .nothing⟩]
  Grammar.after { name := "paste", known := known } args fun options paths =>
    let last := recordEnd options
    match delimiters ((options.value? 'd').getD "\t").toList with
    | none =>
      .complained ("paste: delimiter list ends with an unescaped backslash: " ++ (options.value? 'd').getD "") 1
    | some signs =>
      if options.has 's' then
        overInputs found paths fun path content =>
          match content with
          | .ok bytes => .printed (between signs (bareRecords last bytes) ++ [last])
          | .error e => pathFault "paste" path e
      else
        let paths := orInput paths
        let inputs := paths.map fun path => (path, contentOf found path)
        match inputs.findSome? fun (path, content) => match content with
          | .error e => some (pathFault "paste" path e)
          | .ok _ => none with
        | some fault => fault
        | none =>
          let takers := (paths.filter isInput).length
          let columns := inputs.zipIdx.map fun ((path, content), i) =>
            let lines := bareRecords last (content.toOption.getD [])
            if isInput path then sharedLines lines takers ((paths.take i).filter isInput).length else lines
          let rows := (columns.map List.length).foldl max 0
          let row (i : Nat) : Bytes := between signs (columns.map fun lines => (lines[i]?).getD [])
          { Finished.printed (joinRecords last ((List.range rows).map row)) with
            unread := if takers = 0 then none else some [] }

def columnAfter (counted : Bool) (column : Nat) (b : UInt8) : Nat :=
  if counted then column + 1
  else if b = 8 then column - 1
  else if b = 13 then 0
  else if b = 9 then (column / 8 + 1) * 8
  else column + 1

structure Breaking where
  width : Nat
  counted : Bool
  atBlanks : Bool
  deriving DecidableEq, Repr, Inhabited

def Breaking.broken (f : Breaking) : (bound : Nat) → (front : Bytes) → Bytes → List Bytes
  | 0, _, _ => []
  | _, front, [] => [front.reverse]
  | bound + 1, front, b :: rest =>
    let column := front.reverse.foldl (columnAfter f.counted) 0
    if columnAfter f.counted column b ≤ f.width || front.isEmpty then f.broken bound (b :: front) rest
    else
      let isBlank (b : UInt8) : Bool := b = 32 || b = 9
      let word := front.takeWhile fun b => !isBlank b
      if f.atBlanks && word.length < front.length then
        (front.drop word.length).reverse :: f.broken bound word (b :: rest)
      else front.reverse :: f.broken bound [] (b :: rest)

def fold : Utility := fun found args =>
  let known := lettersKnown "0123456789" ++
    [⟨'b', "bytes", .nothing⟩, ⟨'s', "spaces", .nothing⟩, ⟨'w', "width", .value⟩]
  let plain := args.map fun arg =>
    match arg.toList with
    | '-' :: digits => if (Text.digits? digits).isSome then s!"-w{String.ofList digits}" else arg
    | _ => arg
  Grammar.after { name := "fold", known := known } plain fun options paths =>
    let asked := (options.value? 'w').getD "80"
    match Text.digits? asked.toList with
    | none => .complained ("fold: invalid number of columns: " ++ inQuotes asked) 1
    | some 0 => .complained ("fold: invalid number of columns: " ++ inQuotes asked ++ ": Numerical result out of range") 1
    | some width =>
      let f : Breaking := ⟨width, options.has 'b', options.has 's'⟩
      let folded (line : Bytes) : Bytes :=
        let body := withoutEnd 10 line
        [(10 : UInt8)].intercalate (f.broken (2 * body.length + 2) [] body) ++ line.drop body.length
      overInputs found paths fun path content =>
        match content with
        | .ok bytes => .printed ((linesOf bytes).flatMap folded)
        | .error e => pathFault "fold" path e

def nextStop (stops : List Nat) (column : Nat) : Nat :=
  match stops with
  | [size] => (column / max 1 size + 1) * max 1 size
  | _ => (stops.find? fun stop => decide (column < stop)).getD (column + 1)

def expanded (stops : List Nat) (frontOnly : Bool) : (column : Nat) → Bytes → Bytes
  | _, [] => []
  | column, b :: rest =>
    if b = 9 then
      let stop := nextStop stops column
      List.replicate (stop - column) 32 ++ expanded stops frontOnly stop rest
    else if frontOnly && b ≠ 32 then b :: rest
    else b :: expanded stops frontOnly (if b = 8 then column - 1 else column + 1) rest

def expand : Utility := fun found args =>
  let known := [⟨'i', "initial", .nothing⟩, ⟨'t', "tabs", .value⟩]
  let plain := args.map fun arg =>
    match arg.toList with
    | '-' :: digits => if (Text.digits? digits).isSome then s!"-t{String.ofList digits}" else arg
    | _ => arg
  Grammar.after { name := "expand", known := known } plain fun options paths =>
    let asked := ((options.value? 't').getD "").toList
    let isEnd (c : Char) : Bool := c == ',' || c == ' ' || c == '\t'
    let parts := ((String.ofList (asked.map fun c => if isEnd c then ',' else c)).splitOn ",").filter (· ≠ "")
    let stops := parts.filterMap fun part => Text.digits? part.toList
    let refuse (message : String) : Finished := .complained s!"expand: {message}" 1
    match asked.dropWhile fun c => c.isDigit || isEnd c with
    | c :: rest => refuse ("tab size contains invalid character(s): " ++ inQuotes (String.ofList (c :: rest)))
    | [] =>
      if stops.contains 0 then refuse "tab size cannot be 0"
      else if !(stops.zip (stops.drop 1)).all fun (a, b) => a < b then refuse "tab sizes must be ascending"
      else
        let stops := if stops.isEmpty then [8] else stops
        overInputs found paths fun path content =>
          match content with
          | .ok bytes => .printed ((linesOf bytes).flatMap (expanded stops (options.has 'i') 0))
          | .error e => pathFault "expand" path e

inductive NumberStyle
  | left
  | right
  | zeros
  deriving DecidableEq, Repr, Inhabited

def NumberStyle.shown (style : NumberStyle) (width : Nat) (n : Int) : List Char :=
  let digits := (toString n).toList
  let room := width - digits.length
  match style with
  | .left => digits ++ List.replicate room ' '
  | .right => List.replicate room ' ' ++ digits
  | .zeros => zeroFilledNumber room digits
where
  zeroFilledNumber (room : Nat) : List Char → List Char
    | '-' :: digits => '-' :: List.replicate room '0' ++ digits
    | digits => List.replicate room '0' ++ digits

inductive Numbered
  | all
  | filled
  | none
  | fitting (pattern : Regex)
  deriving Inhabited

def Numbered.ofText (text : String) : Option (Except String Numbered) :=
  match text.toList with
  | ['a'] => some (.ok .all)
  | ['t'] => some (.ok .filled)
  | ['n'] => some (.ok .none)
  | 'p' :: pattern =>
    some (match Regex.ofText ⟨false, false⟩ pattern with
      | .ok r => .ok (.fitting r)
      | .error f => .error f.text)
  | _ => Option.none

def nl : Utility := fun found args =>
  let known := [⟨'b', "body-numbering", .value⟩, ⟨'d', "section-delimiter", .value⟩,
    ⟨'f', "footer-numbering", .value⟩, ⟨'h', "header-numbering", .value⟩, ⟨'i', "line-increment", .value⟩,
    ⟨'l', "join-blank-lines", .value⟩, ⟨'n', "number-format", .value⟩, ⟨'p', "no-renumber", .nothing⟩,
    ⟨'s', "number-separator", .value⟩, ⟨'v', "starting-line-number", .value⟩, ⟨'w', "number-width", .value⟩]
  Grammar.after { name := "nl", known := known } args fun options paths =>
    let whole? (text : String) : Option Int :=
      match text.toList with
      | '-' :: digits => (Text.digits? digits).map fun n => -(n : Int)
      | digits => (Text.digits? digits).map fun n => (n : Int)
    let number (letter : Char) (what : String) (least : Int) (standard : Int) : Except Finished Int :=
      match options.value? letter with
      | none => .ok standard
      | some text =>
        match whole? text with
        | some n =>
          if least ≤ n then .ok n
          else .error (.complained (s!"nl: invalid {what}: " ++ inQuotes text ++ ": Numerical result out of range") 1)
        | none => .error (.complained (s!"nl: invalid {what}: " ++ inQuotes text) 1)
    let numbers : Except Finished (Int × Int × Int × Int) := do
      let least := -0x8000000000000000
      return (← number 'v' "starting line number" least 1, ← number 'i' "line number increment" least 1,
        ← number 'l' "line number of blank lines" 1 1, ← number 'w' "line number field width" 1 6)
    let styles := [("ln", NumberStyle.left), ("rn", .right), ("rz", .zeros)]
    let style := (options.value? 'n').getD "rn"
    let body := (options.value? 'b').getD "t"
    match numbers, Numbered.ofText body, styles.lookup style with
    | .error f, _, _ => f
    | _, none, _ => .puzzled "nl" ("invalid body numbering style: " ++ inQuotes body)
    | _, some (.error message), _ => .complained s!"nl: {message}" 1
    | _, _, none => .puzzled "nl" ("invalid line numbering format: " ++ inQuotes style)
    | .ok (start, step, joined, width), some (.ok which), some style =>
      let separator := Raw.bytes ((options.value? 's').getD "\t")
      let width := width.toNat
      let bare := List.replicate (width + separator.length) (32 : UInt8)
      let row (state : Int × Nat × List Bytes) (line : Bytes) : Int × Nat × List Bytes :=
        let (n, blanks, rows) := state
        let blanks := if line.isEmpty then blanks + 1 else 0
        let counts := match which with
          | .all => !line.isEmpty || blanks % max 1 joined.toNat = 0
          | .filled => !line.isEmpty
          | .none => false
          | .fitting r => Regex.occursIn ⟨false, false⟩ r (Raw.ofBytes line).toList
        let front := if counts then Raw.bytesOf (style.shown width n) ++ separator else bare
        (if counts then n + step else n, blanks, (front ++ line ++ [10]) :: rows)
      withAll "nl" found paths fun bytes =>
        .printed ((bareLines bytes).foldl row (start, 0, [])).2.2.reverse.flatten

end Emplace.Program.Utility
