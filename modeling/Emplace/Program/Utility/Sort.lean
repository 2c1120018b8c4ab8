import Emplace.Program.Utility.Filter
import Emplace.Program.Utility.Printing

namespace Emplace.Program.Utility

namespace Sorting

/-! ## Keys -/

/-- A part of a line that counts: from a field and a character in it, counted from zero, up to the end of a field or up
to so many characters of it; and the letters that say how it counts. -/
structure Key where
  field : Nat
  char : Nat
  last : Option (Nat × Nat)
  blanksBefore : Bool
  blanksBehind : Bool
  letters : List Char
  deriving DecidableEq, Repr, Inhabited

def keyLetters : List Char := ['b', 'd', 'f', 'g', 'h', 'i', 'M', 'n', 'R', 'r', 'V']

def soleLetters : List Char := ['d', 'g', 'h', 'i', 'M', 'n', 'R', 'V']

def Key.clash? (k : Key) : Option String :=
  let own := soleLetters.filter k.letters.contains
  let isFilter (c : Char) : Bool := c == 'd' || c == 'i'
  let kinds := own.filter (fun c => !isFilter c) ++ (own.filter isFilter).take 1
  if kinds.length ≤ 1 then none
  else some (String.ofList (own.filter fun c => c != 'i' || !own.contains 'd'))

def isBlank (b : UInt8) : Bool := b = 32 || b = 9 || b = 10

def behindFields (separator : Option UInt8) : Nat → Bytes → Bytes
  | 0, line => line
  | n + 1, line =>
    if line.isEmpty then []
    else
      behindFields separator n <| match separator with
        | some s => (line.dropWhile (· != s)).drop 1
        | none => (line.dropWhile isBlank).dropWhile fun b => !isBlank b

def Key.part (k : Key) (separator : Option UInt8) (line : Bytes) : Bytes :=
  let front := behindFields separator k.field line
  let front := (if k.blanksBefore then front.dropWhile isBlank else front).drop k.char
  match k.last with
  | none => front
  | some (field, chars) =>
    let behind :=
      if chars = 0 then
        match separator with
        | some s => (behindFields separator field line).dropWhile (· != s)
        | none => behindFields none (field + 1) line
      else
        let rest := behindFields separator field line
        (if k.blanksBehind then rest.dropWhile isBlank else rest).drop chars
    front.take (front.length - behind.length)

/-! ## Comparing -/

def isDigitByte (b : UInt8) : Bool := 48 ≤ b && b ≤ 57

def places : Nat := 30

def numberAt (bytes : Bytes) : Int × Bytes :=
  let text := bytes.dropWhile isBlank
  let (negative, text) := match text with
    | 45 :: rest => (true, rest)
    | text => (false, text)
  let (whole, rest) := text.span isDigitByte
  let (behind, rest) := match rest with
    | 46 :: rest => rest.span isDigitByte
    | rest => ([], rest)
  let size := Text.digitsValue
    ((whole ++ (behind ++ List.replicate (places - behind.length) 48).take places).map fun b => Char.ofNat b.toNat)
  (if negative then -(size : Int) else size, rest)

def unitWeight (rest : Bytes) : Int :=
  match rest with
  | b :: _ => (((Raw.bytes "\x00KMGTPEZYRQ").idxOf? (if b = 107 then 75 else b)).getD 0 : Nat)
  | [] => 0

def monthNames : List String := ["JAN", "FEB", "MAR", "APR", "MAY", "JUN", "JUL", "AUG", "SEP", "OCT", "NOV", "DEC"]

def monthAt (bytes : Bytes) : Nat :=
  let name := ((bytes.dropWhile isBlank).take 3).map fun b => (Char.ofNat b.toNat).toUpper
  ((monthNames.idxOf? (String.ofList name)).map (· + 1)).getD 0

def realAt? (bytes : Bytes) : Option Int :=
  let (negative, digits) := signOf ((bytes.dropWhile isBlank).map fun b => Char.ofNat b.toNat)
  (decimalNumber? digits).map fun (x, _) =>
    let size : Int := (x.numerator * Nat.pow 10 places / max 1 x.denominator : Nat)
    if negative then -size else size

/-- How much a byte weighs that is no digit of a version: a tilde least, then the end, letters, and all others. -/
def versionWeight (b : UInt8) : Nat :=
  let c := Char.ofNat b.toNat
  if c == '~' then 0 else if c.isAlpha then c.toNat + 1 else c.toNat + 257

def compareVersions : (bound : Nat) → Bytes → Bytes → Ordering
  | 0, _, _ => .eq
  | _, [], [] => .eq
  | bound + 1, a, b =>
    let (textA, restA) := a.span fun b => !isDigitByte b
    let (textB, restB) := b.span fun b => !isDigitByte b
    let weights (text : Bytes) : List Nat := text.map versionWeight ++ [1]
    let value (text : Bytes) : Nat := Text.digitsValue ((text.takeWhile isDigitByte).map fun b => Char.ofNat b.toNat)
    (compare (weights textA) (weights textB)).then <| (compare (value restA) (value restB)).then <|
      compareVersions bound (restA.dropWhile isDigitByte) (restB.dropWhile isDigitByte)

def compareBytes (a b : Bytes) : Ordering := compare (a.map UInt8.toNat) (b.map UInt8.toNat)

def Key.counted (k : Key) (part : Bytes) : Bytes :=
  let isAlnum (b : UInt8) : Bool := (Char.ofNat b.toNat).isAlphanum
  let part :=
    if k.letters.contains 'd' then part.filter fun b => isBlank b || isAlnum b
    else if k.letters.contains 'i' then part.filter fun b => 32 ≤ b && b < 127
    else part
  if k.letters.contains 'f' then part.map fun b => if 97 ≤ b && b ≤ 122 then b - 32 else b else part

def compareScaled (a b : Bytes) : Ordering :=
  let (m, restA) := numberAt a
  let (n, restB) := numberAt b
  (compare m.sign n.sign).then <|
    (compare (m.sign * unitWeight restA) (n.sign * unitWeight restB)).then (compare m n)

def compareReals (a b : Bytes) : Ordering :=
  match realAt? a, realAt? b with
  | none, none => .eq
  | none, _ => .lt
  | _, none => .gt
  | some x, some y => compare x y

def Key.compare (k : Key) (a b : Bytes) : Ordering :=
  let has := k.letters.contains
  let order :=
    if has 'n' then Ord.compare (numberAt a).1 (numberAt b).1
    else if has 'g' then compareReals a b
    else if has 'h' then compareScaled a b
    else if has 'M' then Ord.compare (monthAt a) (monthAt b)
    else if has 'V' then compareVersions (a.length + b.length + 2) a b
    else compareBytes (k.counted a) (k.counted b)
  if has 'r' then order.swap else order

/-! ## Reading keys -/

def fieldNumber (place : String) (cs : List Char) : Except String (Nat × List Char) :=
  let (digits, rest) := cs.span Char.isDigit
  match Text.digits? digits with
  | some n => .ok (n, rest)
  | none => .error (s!"invalid number {place}: invalid count at start of " ++ inQuotes (String.ofList cs))

def pointNumber (cs : List Char) : Except String (Option Nat × List Char) :=
  match cs with
  | '.' :: rest => (fieldNumber "after \x27.\x27" rest).map fun (n, rest) => (some n, rest)
  | rest => .ok (none, rest)

def Key.ofText (text : String) : Except String Key := do
  let refuse {α : Type} (what : String) : Except String α :=
    .error (s!"{what}: invalid field specification " ++ inQuotes text)
  let (field, rest) ← fieldNumber "at field start" text.toList
  if field = 0 then refuse "field number is zero"
  let (char, rest) ← pointNumber rest
  if char = some 0 then refuse "character offset is zero"
  let (letters, rest) := rest.span keyLetters.contains
  let key : Key := ⟨field - 1, (char.getD 1) - 1, none, letters.contains 'b', false, letters.filter (· != 'b')⟩
  match rest with
  | [] => return key
  | ',' :: rest =>
    let (last, rest) ← fieldNumber "after \x27,\x27" rest
    if last = 0 then refuse "field number is zero"
    let (chars, rest) ← pointNumber rest
    let (more, rest) := rest.span keyLetters.contains
    if !rest.isEmpty then refuse "stray character in field spec"
    return { key with
      last := some (last - 1, chars.getD 0)
      blanksBehind := more.contains 'b'
      letters := key.letters ++ more.filter (· != 'b') }
  | _ => refuse "stray character in field spec"

def Key.inheriting (k standard : Key) : Key :=
  if k.letters.isEmpty && !k.blanksBefore && !k.blanksBehind then
    { k with blanksBefore := standard.blanksBefore, blanksBehind := standard.blanksBefore, letters := standard.letters }
  else k

/-! ## Sorting -/

structure Request where
  keys : List Key
  separator : Option UInt8
  unique : Bool
  stable : Bool
  turned : Bool
  deriving DecidableEq, Repr, Inhabited

def Request.compareKeys (r : Request) (a b : Bytes) : Ordering :=
  match r.keys with
  | [] => if r.turned then (compareBytes a b).swap else compareBytes a b
  | keys => keys.foldl (fun order k => order.then (k.compare (k.part r.separator a) (k.part r.separator b))) .eq

def Request.compare (r : Request) (a b : Bytes) : Ordering :=
  let order := r.compareKeys a b
  if r.keys.isEmpty || r.unique || r.stable then order
  else order.then (if r.turned then (compareBytes a b).swap else compareBytes a b)

def Request.distinct (r : Request) : List Bytes → List Bytes
  | a :: b :: rest =>
    match r.distinct (b :: rest) with
    | c :: more => if (r.compare a c).isEq then a :: more else a :: c :: more
    | [] => [a]
  | lines => lines

def Request.disorder? (r : Request) : (number : Nat) → List Bytes → Option (Nat × Bytes)
  | n, a :: b :: rest =>
    match r.compare a b with
    | .gt => some (n + 1, b)
    | .eq => if r.unique then some (n + 1, b) else r.disorder? (n + 1) (b :: rest)
    | .lt => r.disorder? (n + 1) (b :: rest)
  | _, _ => none

def Request.merged (r : Request) : (bound : Nat) → List (List Bytes) → List Bytes
  | 0, _ => []
  | bound + 1, lists =>
    let lists := lists.filter fun lines => !lines.isEmpty
    let heads := lists.filterMap List.head?
    match heads.find? fun a => heads.all fun b => (r.compare a b).isLE with
    | none => []
    | some least =>
      let i := (heads.idxOf? least).getD 0
      least :: r.merged bound (lists.modify i (·.drop 1))

end Sorting

open Sorting (Key)

def orderWords : List (String × Char) :=
  [("general-numeric", 'g'), ("human-numeric", 'h'), ("month", 'M'), ("numeric", 'n'), ("random", 'R'), ("version", 'V')]

def wordFault (name option value : String) (rows : List (List String)) : Finished :=
  let row (words : List String) : String := "\n  - " ++ ", ".intercalate (words.map inQuotes)
  .puzzled name (s!"invalid argument " ++ inQuotes value ++ " for " ++ inQuotes s!"--{option}" ++
    "\nValid arguments are:" ++ String.join (rows.map row))

def sortGrammar : Grammar where
  name := "sort"
  status := 2
  known := lettersKnown "c" ++
    [⟨'b', "ignore-leading-blanks", .nothing⟩, ⟨'C', "", .nothing⟩, ⟨'\x01', "check", .perhaps⟩,
      ⟨'d', "dictionary-order", .nothing⟩, ⟨'f', "ignore-case", .nothing⟩, ⟨'g', "general-numeric-sort", .nothing⟩,
      ⟨'h', "human-numeric-sort", .nothing⟩, ⟨'i', "ignore-nonprinting", .nothing⟩, ⟨'k', "key", .value⟩,
      ⟨'m', "merge", .nothing⟩, ⟨'M', "month-sort", .nothing⟩, ⟨'n', "numeric-sort", .nothing⟩,
      ⟨'o', "output", .value⟩, ⟨'R', "random-sort", .nothing⟩, ⟨'r', "reverse", .nothing⟩,
      ⟨'\x02', "sort", .value⟩, ⟨'s', "stable", .nothing⟩, ⟨'S', "buffer-size", .value⟩,
      ⟨'t', "field-separator", .value⟩, ⟨'T', "temporary-directory", .value⟩, ⟨'u', "unique", .nothing⟩,
      ⟨'V', "version-sort", .nothing⟩, ⟨'z', "zero-terminated", .nothing⟩, ⟨'\x03', "parallel", .value⟩,
      ⟨'\x03', "batch-size", .value⟩]

def sortRequest (options : GivenOptions) : Except Finished Sorting.Request := do
  let refuse {α : Type} (message : String) : Except Finished α := .error (.complained s!"sort: {message}" 2)
  let words ← (options.filter fun o => o.letter == '\x02').mapM fun o =>
    match orderWords.lookup (o.value.getD "") with
    | some c => .ok c
    | none => .error (wordFault "sort" "sort" (o.value.getD "") (orderWords.map fun (word, _) => [word]))
  let given := words ++ (options.map Given.letter).filter Sorting.keyLetters.contains
  let whole : Key := ⟨0, 0, none, given.contains 'b', false, given.filter (· != 'b')⟩
  let keys ← (options.filter fun o => o.letter == 'k').mapM fun o =>
    match Key.ofText (o.value.getD "") with
    | .ok k => .ok (k.inheriting whole)
    | .error message => refuse message
  let separators ← (options.filter fun o => o.letter == 't').mapM fun o =>
    match (o.value.getD "").toList with
    | [] => refuse "empty tab"
    | ['\\', '0'] => .ok (0 : UInt8)
    | [c] => .ok (UInt8.ofNat c.toNat)
    | _ => refuse ("multi-character tab " ++ inQuotes (o.value.getD ""))
  if separators.any fun s => s ≠ separators.headD 0 then refuse "incompatible tabs"
  let standard := given.all fun c => c == 'r'
  let keys := if keys.isEmpty && !standard then [whole] else keys
  match keys.filterMap Key.clash? with
  | letters :: _ => refuse s!"options \x27-{letters}\x27 are incompatible"
  | [] => return ⟨keys, separators.head?, options.has 'u', options.has 's', given.contains 'r'⟩

def sortCheck (options : GivenOptions) : Except Finished (Option Char) := do
  let asked ← options.filterMapM fun o =>
    match o.letter, o.value with
    | 'c', _ => .ok (some 'c')
    | 'C', _ => .ok (some 'C')
    | '\x01', none | '\x01', some "diagnose-first" => .ok (some 'c')
    | '\x01', some "silent" | '\x01', some "quiet" => .ok (some 'C')
    | '\x01', some value => .error (wordFault "sort" "check" value [["quiet", "silent"], ["diagnose-first"]])
    | _, _ => .ok none
  if asked.contains 'c' && asked.contains 'C' then
    .error (.complained "sort: options \x27-cC\x27 are incompatible" 2)
  else
    match asked.head?, options.has 'o' with
    | some c, true => .error (.complained s!"sort: options \x27-{c}o\x27 are incompatible" 2)
    | found, _ => .ok found

def sortFault (path : String) (e : SystemError) : Finished :=
  let what := if e = .isADirectory then "read failed" else "cannot read"
  .complained s!"sort: {what}: {shownPath path}: {e.words}" 2

def checkOrder (found : Surroundings) (r : Sorting.Request) (last : UInt8) (loud : Bool) (path : String) : Finished :=
  overInputs found [path] fun path content =>
    match content with
    | .error e => sortFault path e
    | .ok bytes =>
      match r.disorder? 1 (bareRecords last bytes) with
      | none => .silent 0
      | some (number, line) =>
        if loud then .complained s!"sort: {shownPath path}:{number}: disorder: {Raw.ofBytes line}" 1 else .silent 1

def fieldAsKey (args : List String) : List String :=
  args.flatMap fun arg =>
    match arg.toList with
    | '+' :: digits =>
      match Text.digits? digits with
      | some n => [s!"-k{n + 1}"]
      | none => [arg]
    | _ => [arg]

def sort : Utility := fun found args =>
  sortGrammar.after (fieldAsKey args) fun options paths =>
    match sortRequest options, sortCheck options with
    | .error f, _ | _, .error f => f
    | .ok r, .ok (some kind) =>
      match paths with
      | _ :: extra :: _ => .complained s!"sort: extra operand {alwaysQuoted extra} not allowed with -{kind}" 2
      | _ => checkOrder found r (recordEnd options) (kind == 'c') (paths.headD "-")
    | .ok r, .ok none =>
      let last := recordEnd options
      let inputs := contents found false (orInput paths)
      match inputs.findSome? fun (path, content) => match content with
        | .error e => some (sortFault path e)
        | .ok _ => none with
      | some fault => fault
      | none =>
        let lists := inputs.map fun (_, content) => bareRecords last (content.toOption.getD [])
        let lines := lists.flatten
        let ordered :=
          if options.has 'm' then r.merged (lines.length + 1) lists
          else lines.mergeSort fun a b => (r.compare a b).isLE
        let out := joinRecords last (if r.unique then r.distinct ordered else ordered)
        let unread := if inputs.any fun (path, _) => isInput path then some [] else none
        match options.value? 'o' with
        | none => { Finished.printed out with unread := unread }
        | some path =>
          match found.disk.write (Raw.toText path) out with
          | .ok disk => { Finished.silent 0 with unread := unread, changed := some disk }
          | .error e => .complained s!"sort: open failed: {shownPath path}: {e.words}" 2

/-! ## Repeated lines -/

def comparedPart (options : GivenOptions) (number : Char → Nat → Nat) (line : Bytes) : Bytes :=
  let isBlank (b : UInt8) : Bool := b = 32 || b = 9
  let behind := (List.range (number 'f' 0)).foldl
    (fun line _ => (line.dropWhile isBlank).dropWhile fun b => !isBlank b) line
  let part := (behind.drop (number 's' 0)).take (number 'w' line.length)
  if options.has 'i' then part.map fun b => if 97 ≤ b && b ≤ 122 then b - 32 else b else part

def neighbours (part : Bytes → Bytes) (lines : List Bytes) : List (List Bytes) :=
  lines.foldr
    (fun line groups =>
      match groups with
      | (next :: more) :: rest => if part line = part next then (line :: next :: more) :: rest else [line] :: groups
      | _ => [line] :: groups)
    []

def setApart (place : String) (groups : List (List Bytes)) : List Bytes :=
  let before := place = "prepend" || place = "both"
  let behind := place = "append" || place = "both"
  if groups.isEmpty then []
  else (if before then [[]] else []) ++ [([] : Bytes)].intercalate groups ++ (if behind then [[]] else [])

def uniqGrammar : Grammar where
  name := "uniq"
  known :=
    [⟨'c', "count", .nothing⟩, ⟨'d', "repeated", .nothing⟩, ⟨'D', "", .nothing⟩, ⟨'\x01', "all-repeated", .perhaps⟩,
      ⟨'f', "skip-fields", .value⟩, ⟨'\x02', "group", .perhaps⟩, ⟨'i', "ignore-case", .nothing⟩,
      ⟨'s', "skip-chars", .value⟩, ⟨'u', "unique", .nothing⟩, ⟨'w', "check-chars", .value⟩,
      ⟨'z', "zero-terminated", .nothing⟩]

def uniqLines (options : GivenOptions) (groups : List (List Bytes)) : List Bytes :=
  let single (group : List Bytes) : Bool := group.length = 1
  let all := options.has 'D' || options.has '\x01'
  let place := ((options.find? fun o => o.letter == '\x01').bind Given.value).getD "none"
  if options.has '\x02' then setApart ((options.value? '\x02').getD "separate") groups
  else if all then
    let repeated := if options.has 'u' then [] else groups.filter fun group => !single group
    if place = "none" then repeated.flatten else setApart place repeated
  else
    let kept := groups.filter fun group =>
      if single group then !options.has 'd' else !options.has 'u'
    kept.map fun group =>
      (if options.has 'c' then lineNumber 7 group.length ++ [32] else []) ++ group.headD []

def uniq : Utility := fun found args =>
  let plain := args.map fun arg =>
    match arg.toList with
    | sign :: digits =>
      match Text.digits? digits with
      | some n => if sign == '-' then s!"-f{n}" else if sign == '+' then s!"-s{n}" else arg
      | none => arg
    | [] => arg
  uniqGrammar.after plain fun options paths =>
    let wanted : List (Char × String) :=
      [('f', "invalid number of fields to skip"), ('s', "invalid number of bytes to skip"),
        ('w', "invalid number of bytes to compare")]
    let valueFault := options.findSome? fun o => (wanted.lookup o.letter).bind fun message =>
      if (Text.digits? (o.value.getD "").toList).isSome then none
      else some (Finished.complained ("uniq: " ++ o.value.getD "" ++ ": " ++ message) 1)
    let number (letter : Char) (standard : Nat) : Nat :=
      ((options.value? letter).bind fun value => Text.digits? value.toList).getD standard
    let placeFault (letter : Char) (word : String) (places : List String) : Option Finished :=
      options.findSome? fun o =>
        if o.letter == letter && (o.value.map fun v => !places.contains v).getD false then
          some (wordFault "uniq" word (o.value.getD "") (places.map fun place => [place]))
        else none
    match valueFault <|> placeFault '\x01' "all-repeated" ["none", "prepend", "separate"] <|>
        placeFault '\x02' "group" ["prepend", "append", "separate", "both"] with
    | some f => f
    | none =>
      match paths with
      | _ :: _ :: extra :: _ => .puzzled "uniq" ("extra operand " ++ inQuotes extra)
      | _ =>
        if options.has '\x02' && ['c', 'd', 'D', 'u', '\x01'].any options.has then
          .puzzled "uniq" "--group is mutually exclusive with -c/-d/-D/-u"
        else if options.has 'c' && (options.has 'D' || options.has '\x01') then
          .puzzled "uniq" "printing all duplicated lines and repeat counts is meaningless"
        else
          let last := recordEnd options
          let done := overInputs found (paths.take 1) fun path content =>
            match content with
            | .error .isADirectory =>
              .complained s!"uniq: error reading {alwaysQuoted path}: {SystemError.words .isADirectory}" 1
            | .error e => pathFault "uniq" path e
            | .ok bytes =>
              let groups := neighbours (comparedPart options number) (bareRecords last bytes)
              .printed (joinRecords last (uniqLines options groups))
          match paths[1]?, done.ending with
          | some path, .exited 0 =>
            if path = "-" then done
            else
              match found.disk.write (Raw.toText path) done.stdout with
              | .ok disk => { done with stdout := [], changed := some disk }
              | .error e => pathFault "uniq" path e
          | _, _ => done

/-! ## Common lines -/

structure Comparing where
  rows : List (Nat × Bytes)
  unpaired : Bool
  unsorted : List Nat
  deriving DecidableEq, Repr, Inhabited

def Comparing.noted (c : Comparing) (strict : Bool) (file : Nat) (before after : Option Bytes) : Comparing :=
  match before, after with
  | some a, some b =>
    if (strict || c.unpaired) && !c.unsorted.contains file && Sorting.compareBytes a b = .gt then
      { c with unsorted := c.unsorted ++ [file] }
    else c
  | _, _ => c

/-- Takes the first line off a file and checks its order; at the end of the file its last two lines count again. -/
def Comparing.passed (c : Comparing) (strict : Bool) (file : Nat) (before : Option Bytes) (lines : List Bytes) :
    Comparing :=
  match lines with
  | [a] => c.noted strict file before (some a)
  | a :: b :: _ => c.noted strict file (some a) (some b)
  | [] => c

def Comparing.go (strict : Bool) : (bound : Nat) → (beforeA beforeB : Option Bytes) → List Bytes → List Bytes →
    Comparing → Comparing
  | 0, _, _, _, _, c => c
  | bound + 1, beforeA, beforeB, as, bs, c =>
    if strict && !c.unsorted.isEmpty then c
    else
      let order : Option Ordering := match as, bs with
        | [], [] => none
        | _ :: _, [] => some .lt
        | [], _ :: _ => some .gt
        | a :: _, b :: _ => some (Sorting.compareBytes a b)
      match order with
      | none => c
      | some .lt =>
        let c := { c with rows := (1, as.headD []) :: c.rows, unpaired := true }
        go strict bound as.head? beforeB (as.drop 1) bs (c.passed strict 1 beforeA as)
      | some .gt =>
        let c := { c with rows := (2, bs.headD []) :: c.rows, unpaired := true }
        go strict bound beforeA bs.head? as (bs.drop 1) (c.passed strict 2 beforeB bs)
      | some .eq =>
        let c := { c with rows := (3, as.headD []) :: c.rows }
        go strict bound as.head? bs.head? (as.drop 1) (bs.drop 1)
          ((c.passed strict 1 beforeA as).passed strict 2 beforeB bs)

def comm : Utility := fun found args =>
  let known := lettersKnown "123" ++
    [⟨'z', "zero-terminated", .nothing⟩, ⟨'\x01', "check-order", .nothing⟩, ⟨'\x02', "nocheck-order", .nothing⟩,
      ⟨'\x03', "output-delimiter", .value⟩, ⟨'\x04', "total", .nothing⟩]
  Grammar.after { name := "comm", known := known } args fun options paths =>
    match paths with
    | [] => .puzzled "comm" "missing operand"
    | [path] => .puzzled "comm" ("missing operand after " ++ inQuotes path)
    | [a, b] =>
      let last := recordEnd options
      match contents found false [a, b] with
      | [(_, .error e), _] => pathFault "comm" a e
      | [_, (_, .error e)] => pathFault "comm" b e
      | [(_, .ok as), (_, .ok bs)] =>
        let as := bareRecords last as
        let bs := bareRecords last bs
        let c := Comparing.go (options.has '\x01') (as.length + bs.length + 1) none none as bs ⟨[], false, []⟩
        let delimiter := Raw.bytes ((options.value? '\x03').getD "\t")
        let hidden (column : Nat) : Bool := options.has (Char.ofNat ('0'.toNat + column))
        let front (column : Nat) : Bytes :=
          (((List.range column).drop 1).filter fun n => !hidden n).flatMap fun _ => delimiter
        let rows := c.rows.reverse.filter fun (column, _) => !hidden column
        let total := delimiter.intercalate <|
          ([1, 2, 3].map fun column => Raw.bytes (toString (c.rows.filter fun (n, _) => n = column).length)) ++
            [Raw.bytes "total"]
        let out := joinRecords last
          (rows.map (fun (column, line) => front column ++ line) ++ (if options.has '\x04' then [total] else []))
        let loud := !options.has '\x02' && !c.unsorted.isEmpty
        let told := (c.unsorted.map fun file => s!"comm: file {file} is not in sorted order\n") ++
          (if options.has '\x01' then [] else ["comm: input is not in sorted order\n"])
        { stdout := out
          stderr := if loud then Raw.bytes (String.join told) else []
          ending := .exited (if loud then 1 else 0)
          unread := if isInput a || isInput b then some [] else none }
      | _ => .silent 1
    | _ :: _ :: extra :: _ => .puzzled "comm" ("extra operand " ++ inQuotes extra)

end Emplace.Program.Utility
