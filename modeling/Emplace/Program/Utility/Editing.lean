import Emplace.Program.Utility.Editing.Script

namespace Emplace.Program.Utility

namespace Editing

structure Line where
  file : String
  text : List Char
  isEnded : Bool
  number : Nat
  isLast : Bool
  deriving DecidableEq, Repr, Inhabited

structure Paper where
  bytes : List Bytes := []
  owesEnd : Bool := false
  deriving DecidableEq, Repr, Inhabited

def Paper.write (p : Paper) (last : UInt8) (bytes : Bytes) : Paper :=
  ⟨bytes :: (if p.owesEnd then [last] :: p.bytes else p.bytes), false⟩

def Paper.writeLine (p : Paper) (last : UInt8) (text : List Char) (isEnded : Bool) : Paper :=
  let body := Raw.bytesOfCharacters text
  let p := p.write last (if isEnded then body ++ [last] else body)
  { p with owesEnd := !isEnded }

def Paper.content (p : Paper) : Bytes := p.bytes.reverse.flatten

inductive Later
  | text (cs : List Char)
  | file (path : String)
  deriving DecidableEq, Repr, Inhabited

inductive Stop
  | quit (code : Nat)
  | noPattern
  deriving DecidableEq, Repr, Inhabited

structure State where
  lines : List Line
  text : List Char := []
  isEnded : Bool := true
  isLast : Bool := false
  file : String := "-"
  number : Nat := 0
  held : List Char := []
  heldIsEnded : Bool := true
  replaced : Bool := false
  later : List Later := []
  ranges : List (Nat × Option Nat) := []
  lastProbe : Option Probe := none
  output : Paper := {}
  errors : Paper := {}
  files : List (String × Paper) := []
  readers : List (String × List Bytes) := []
  stop : Option Stop := none
  deriving Inhabited

structure Settings where
  disk : Files.Disk
  input : Bytes
  commands : Array Command
  silent : Bool
  last : UInt8
  width : Nat

namespace State

variable (settings : Settings)

def writeTo (s : State) (path : String) (write : Paper → Paper) : State :=
  if path = "/dev/stdout" then { s with output := write s.output }
  else if path = "/dev/stderr" then { s with errors := write s.errors }
  else
    { s with
      files := s.files.map fun (name, paper) => if name = path then (name, write paper) else (name, paper) }

def printLine (s : State) (text : List Char) : State :=
  { s with output := s.output.writeLine settings.last text s.isEnded }

def printBytes (s : State) (bytes : Bytes) : State := { s with output := s.output.write settings.last bytes }

def catchUp (s : State) : State :=
  let s := s.later.reverse.foldl
    (fun s later =>
      match later with
      | .text cs => s.printBytes settings (Raw.bytesOf cs)
      | .file path =>
        match if path = "/dev/stdin" then .ok settings.input else settings.disk.read (Raw.toText path) with
        | .ok [] | .error _ => s
        | .ok bytes => s.printBytes settings bytes)
    s
  { s with later := [] }

def finished (s : State) : State :=
  (if settings.silent then s else s.printLine settings s.text).catchUp settings

def takeUp (s : State) (adding : Bool) : Option State :=
  match s.lines with
  | [] => none
  | l :: rest =>
    some { s with
      lines := rest
      text := if adding then s.text ++ Char.ofNat settings.last.toNat :: l.text else l.text
      isEnded := l.isEnded, isLast := l.isLast, file := l.file, number := l.number }

def probe (s : State) (p : Probe) : State × Option (Regex.Mode × Regex) :=
  match if p.pattern.isSome then some p else s.lastProbe with
  | some q =>
    match q.pattern with
    | some r => ({ s with lastProbe := some q }, some (⟨q.folds, q.lines⟩, r))
    | none => ({ s with stop := some .noPattern }, none)
  | none => ({ s with stop := some .noPattern }, none)

def isAt (s : State) : Address → State × Bool
  | .line n => (s, s.number = n)
  | .every first step => (s, first ≤ s.number && (s.number - first) % max 1 step = 0)
  | .last => (s, s.isLast)
  | .fits p =>
    match s.probe p with
    | (s, some (mode, r)) => (s, r.occursIn mode s.text)
    | (s, none) => (s, false)

def isFor (s : State) (place : Nat) (c : Command) : State × Bool :=
  let closed (s : State) : State := { s with ranges := s.ranges.filter (·.1 != place) }
  let opened (s : State) (last : Option Nat) : State := { closed s with ranges := (place, last) :: s.ranges }
  match c.first, c.limit with
  | none, _ => (s, true)
  | some a, none => s.isAt a
  | some a, some limit =>
    match s.ranges.lookup place with
    | some (some last) => (if last ≤ s.number then closed s else s, s.number ≤ last)
    | some none =>
      match limit with
      | .at b =>
        let (s, ends) := s.isAt b
        (if ends then closed s else s, true)
      | _ => (closed s, true)
    | none =>
      let (s, starts) := s.isAt a
      let numbered (last : Nat) : State := if last ≤ s.number then s else opened s (some last)
      if !starts then (s, false)
      else
        match limit with
        | .at (.line n) => (numbered n, true)
        | .at .last => (if s.isLast then s else opened s none, true)
        | .at _ => (opened s none, true)
        | .behind n => (numbered (s.number + n), true)
        | .multiple n => (numbered (if n = 0 then 0 else (s.number / n + 1) * n), true)

structure Casing where
  all : Option Part := none
  next : Option Part := none
  deriving Repr, Inhabited

def Casing.apply (c : Casing) (cs : List Char) : List Char × Casing :=
  let cased (kind : Option Part) (x : Char) : Char :=
    match kind with
    | some .upper | some .nextUpper => x.toUpper
    | some .lower | some .nextLower => x.toLower
    | _ => x
  match cs with
  | [] => ([], c)
  | x :: rest => (cased (c.next <|> c.all) x :: rest.map (cased c.all), { c with next := none })

def replacement (parts : List Part) (kept : Nat → List Char) : List Char :=
  (parts.foldl
    (fun (done, casing) part =>
      match part with
      | .text cs =>
        let (cs, casing) := Casing.apply casing cs
        (done ++ cs, casing)
      | .group n =>
        let (cs, casing) := Casing.apply casing (kept n)
        (done ++ cs, casing)
      | .upper | .lower => (done, { casing with all := some part })
      | .plain => (done, {})
      | .nextUpper | .nextLower => (done, { casing with next := some part }))
    (([] : List Char), ({} : Casing))).1

/-- The text behind a place with replacements made, and whether there was one; `count` fits were passed so far, and the
last one ended at `passed`. At most `bound` characters are passed. -/
def replaceFrom (sub : Substitution) (mode : Regex.Mode) (r : Regex) (whole : List Char) :
    (bound count : Nat) → (passed : Option Nat) → Regex.Spot → List Char × Bool
  | 0, _, _, s => (s.rest, false)
  | bound + 1, count, passed, s =>
    match r.search? mode (s.rest.length + 1) s with
    | none => (s.rest, false)
    | some (start, last) =>
      let front := s.rest.take (start - s.index)
      let s := Regex.Spot.advance (start - s.index) s
      let stepped (count : Nat) (passed : Option Nat) : List Char × Bool :=
        match s.next?, s.rest with
        | some next, c :: _ =>
          let (text, replaced) := replaceFrom sub mode r whole bound count passed next
          (c :: text, replaced)
        | _, _ => ([], false)
      if start = last.index && passed = some start then
        let (text, replaced) := stepped count none
        (front ++ text, replaced)
      else if count + 1 < sub.first then
        if start = last.index then
          let (text, replaced) := stepped (count + 1) none
          (front ++ text, replaced)
        else
          let (text, replaced) := replaceFrom sub mode r whole bound (count + 1) (some last.index) { last with kept := [] }
          (front ++ (whole.drop start).take (last.index - start) ++ text, replaced)
      else
        let own := replacement sub.parts (Regex.keptText whole start last)
        if !sub.all then (front ++ own ++ last.rest, true)
        else if start = last.index then
          (front ++ own ++ (stepped (count + 1) none).1, true)
        else
          let (text, _) := replaceFrom sub mode r whole bound (count + 1) (some last.index) { last with kept := [] }
          (front ++ own ++ text, true)

def substitute (s : State) (sub : Substitution) : State :=
  match s.probe sub.probe with
  | (s, none) => s
  | (s, some (mode, r)) =>
    let (text, replaced) :=
      replaceFrom sub mode r s.text (2 * s.text.length + 2) 0 none (.startOf s.text)
    if !replaced then s
    else
      let s := { s with text := text, replaced := true }
      let s := if sub.prints then s.printLine settings s.text else s
      match sub.file with
      | some path => s.writeTo path fun p => p.writeLine settings.last s.text s.isEnded
      | none => s

def shownByte (b : UInt8) : Bytes :=
  match ([7, 8, 9, 10, 11, 12, 13, 92] : Bytes).idxOf? b with
  | some i => 92 :: ((Raw.bytes "abtnvfr\\").drop i).take 1
  | none =>
    if 32 ≤ b && b < 127 then [b]
    else
      let digit (n : Nat) : UInt8 := UInt8.ofNat (48 + n % 8)
      [92, digit (b.toNat / 64), digit (b.toNat / 8), digit b.toNat]

def shownText (width : Nat) (text : Bytes) : Bytes :=
  let (rows, _) := text.foldl
    (fun (state : List Bytes × Nat) b =>
      let shown := shownByte b
      if 0 < width && width - 1 < state.2 + shown.length then (shown :: [92, 10] :: state.1, shown.length)
      else (shown :: state.1, state.2 + shown.length))
    ([], 0)
  rows.reverse.flatten ++ [36, 10]

inductive Course
  | onward
  | at (place : Nat)
  | done (printed : Bool)
  | again
  deriving DecidableEq, Repr, Inhabited

def blockEnd (commands : Array Command) : (bound depth place : Nat) → Nat
  | 0, _, place => place
  | bound + 1, depth, place =>
    match commands[place]?.map Command.deed with
    | none => place
    | some .opening => blockEnd commands bound (depth + 1) (place + 1)
    | some .closing => if depth ≤ 1 then place + 1 else blockEnd commands bound (depth - 1) (place + 1)
    | some _ => blockEnd commands bound depth (place + 1)

def labelPlace (commands : Array Command) (name : String) : Nat :=
  if name = "" then commands.size
  else (commands.findIdx? fun c => c.deed = .label name).getD commands.size

def firstLine (last : UInt8) (text : List Char) : List Char × Option (List Char) :=
  let isEnd (c : Char) : Bool := c.toNat = last.toNat
  let front := text.takeWhile fun c => !isEnd c
  (front, if front.length < text.length then some (text.drop (front.length + 1)) else none)

def act (s : State) (place : Nat) (c : Command) : State × Course :=
  let lineEnd := Char.ofNat settings.last.toNat
  let onward (s : State) : State × Course := (s, .onward)
  match c.deed with
  | .opening | .closing | .label _ | .nothing => onward s
  | .append text => onward { s with later := .text text :: s.later }
  | .insert text => onward (s.printBytes settings (Raw.bytesOf text))
  | .change text =>
    let inside := c.limit.isSome && (s.ranges.lookup place).isSome && !c.turned
    ((if inside then s else s.printBytes settings (Raw.bytesOf text)), .done false)
  | .goTo when_ label =>
    let goes := match when_ with
      | .always => true
      | .replaced => s.replaced
      | .unreplaced => !s.replaced
    let s := if when_ = .always then s else { s with replaced := false }
    (s, if goes then .at (labelPlace settings.commands label) else .onward)
  | .delete => (s, .done false)
  | .deleteFirst =>
    match firstLine settings.last s.text with
    | (_, some rest) => ({ s with text := rest }, .again)
    | (_, none) => (s, .done false)
  | .printName => onward (s.printBytes settings (Raw.bytes (s.file ++ "\n")))
  | .get => onward { s with text := s.held, isEnded := s.heldIsEnded }
  | .getMore => onward { s with text := s.text ++ lineEnd :: s.held, isEnded := s.heldIsEnded }
  | .hold => onward { s with held := s.text, heldIsEnded := s.isEnded }
  | .holdMore => onward { s with held := s.held ++ lineEnd :: s.text, heldIsEnded := s.isEnded }
  | .list width =>
    onward (s.printBytes settings (shownText (width.getD settings.width) (Raw.bytesOfCharacters s.text)))
  | .next =>
    if s.lines.isEmpty then (s, .done true)
    else
      let s := s.finished settings
      onward ((s.takeUp settings false).getD s)
  | .nextMore =>
    if s.lines.isEmpty then (s, .done true)
    else
      let s := s.catchUp settings
      onward ((s.takeUp settings true).getD s)
  | .print => onward (s.printLine settings s.text)
  | .printFirst =>
    match firstLine settings.last s.text with
    | (text, some _) => onward (s.printBytes settings (Raw.bytesOfCharacters text ++ [settings.last]))
    | (text, none) => onward (s.printLine settings text)
  | .quit code => ({ s.finished settings with stop := some (.quit code) }, .onward)
  | .quitSilently code => ({ s with stop := some (.quit code) }, .onward)
  | .readFile path => onward { s with later := .file path :: s.later }
  | .readLine path =>
    let left := (s.readers.lookup path).getD
      (bareRecords settings.last ((settings.disk.read (Raw.toText path)).toOption.getD []))
    let readers := (path, left.drop 1) :: s.readers.filter (·.1 != path)
    match left with
    | line :: _ =>
      onward { s with
        readers := readers, later := .text ((line ++ [settings.last]).map fun b => Char.ofNat b.toNat) :: s.later }
    | [] => onward { s with readers := readers }
  | .substitute sub => onward (s.substitute settings sub)
  | .translate pairs => onward { s with text := s.text.map fun c => (pairs.lookup c).getD c }
  | .writeFile path => onward (s.writeTo path fun p => p.writeLine settings.last s.text s.isEnded)
  | .writeFirst path =>
    onward (s.writeTo path fun p => p.writeLine settings.last (firstLine settings.last s.text).1 true)
  | .exchange =>
    onward { s with text := s.held, isEnded := s.heldIsEnded, held := s.text, heldIsEnded := s.isEnded }
  | .number => onward (s.printBytes settings (Raw.bytes s!"{s.number}\n"))
  | .empty => onward { s with text := [] }

def run : (bound place : Nat) → State → State
  | 0, _, s => s
  | bound + 1, place, s =>
    if s.stop.isSome then s
    else
      let nextLine (s : State) : State :=
        match s.takeUp settings false with
        | some s => run bound 0 { s with replaced := false }
        | none => s
      match settings.commands[place]? with
      | none => nextLine (s.finished settings)
      | some c =>
        let (s, isFor) := s.isFor place c
        if s.stop.isSome then s
        else if isFor == c.turned then
          run bound (if c.deed = .opening then blockEnd settings.commands settings.commands.size 1 (place + 1)
            else place + 1) s
        else
          match s.act settings place c with
          | (s, .onward) => run bound (place + 1) s
          | (s, .at place) => run bound place s
          | (s, .done true) => nextLine (s.finished settings)
          | (s, .done false) => nextLine (s.catchUp settings)
          | (s, .again) => run bound 0 (s.catchUp settings)

end State

def stepLimit : Nat := 100000000

def linesIn (last : UInt8) (file : String) (bytes : Bytes) : List Line :=
  (recordsOf last bytes).map fun record =>
    let body := withoutEnd last record
    ⟨file, Raw.characters body, body.length < record.length, 0, false⟩

def numberedLines (lines : List Line) : List Line :=
  (lines.zipIdx 1).map fun (l, n) => { l with number := n, isLast := n = lines.length }

/-- The state in which a script starts with lines; ranges that start before the first line are open. -/
def State.start (commands : List Command) (lines : List Line) : State where
  lines := lines
  ranges := (commands.zipIdx.filter fun (c, _) => Address.isZero c.first).map fun (_, i) => (i, none)
  files := (commands.filterMap fun c => match c.deed with
    | .writeFile path | .writeFirst path => some path
    | .substitute sub => sub.file
    | _ => none).eraseDups.map fun path => (path, {})

end Editing

open Editing (Line Settings)

def sedGrammar : Grammar where
  name := "sed"
  known :=
    [⟨'n', "quiet", .nothing⟩, ⟨'n', "silent", .nothing⟩, ⟨'e', "expression", .value⟩, ⟨'f', "file", .value⟩,
      ⟨'E', "regexp-extended", .nothing⟩, ⟨'r', "", .nothing⟩, ⟨'i', "in-place", .perhaps⟩,
      ⟨'s', "separate", .nothing⟩, ⟨'u', "unbuffered", .nothing⟩, ⟨'z', "null-data", .nothing⟩,
      ⟨'l', "line-length", .value⟩, ⟨'\x01', "posix", .nothing⟩, ⟨'\x02', "debug", .nothing⟩,
      ⟨'\x03', "follow-symlinks", .nothing⟩, ⟨'\x04', "sandbox", .nothing⟩]

def sedSources (found : Surroundings) (options : GivenOptions) (args : List String) :
    Except Finished (List (Editing.Source × List Char) × List String) := do
  let given := options.filter fun o => o.letter == 'e' || o.letter == 'f'
  let sources ← given.zipIdx.mapM fun (o, i) =>
    let value := o.value.getD ""
    if o.letter == 'e' then
      let number := ((given.take (i + 1)).filter fun o => o.letter == 'e').length
      .ok (Editing.Source.expression number, value.toList)
    else
      match contentOf found value with
      | .ok bytes => .ok (.file value, (Raw.ofBytes bytes).toList)
      | .error e => .error (.complained s!"sed: couldn\x27t open file {value}: {e.words}" 4)
  match given, args with
  | [], [] => .error (.complained "Usage: sed [OPTION]... \x7bscript-only-if-no-other-script\x7d [input-file]...\n" 1)
  | [], script :: rest => return ([(.expression 1, script.toList)], rest)
  | _, rest => return (sources, rest)

def Editing.State.left (s : Editing.State) (sources : Nat) : Finished :=
  let (code, fault) := match s.stop with
    | some (.quit code) => (code, "")
    | some .noPattern => (1, s!"sed: -e expression #{sources}, char 0: no previous regular expression\n")
    | none => (0, "")
  { stdout := s.output.content
    stderr := s.errors.content ++ Raw.bytes fault
    ending := .exited code }

def sed : Utility := fun found args =>
  sedGrammar.after args fun options args =>
    match sedSources found options args with
    | .error f => f
    | .ok (sources, paths) =>
      let extended := options.has 'E' || options.has 'r'
      match Editing.programOf extended sources with
      | .error (message, code) => .complained s!"sed: {message}" code
      | .ok commands =>
        let last := recordEnd options
        let isQuiet := (sources.head?.map fun source =>
          source.2.take 3 = ['#', 'n', '\n'] || source.2 = ['#', 'n']).getD false
        let settings : Settings := {
          disk := found.disk, input := found.input, commands := commands.toArray
          silent := options.has 'n' || isQuiet, last := last
          width := ((options.value? 'l').bind fun value => Text.digits? value.toList).getD 70 }
        let inputs := contents found false (orInput paths)
        let faults := inputs.filterMap fun (path, content) =>
          match content with
          | .error .isADirectory =>
            if options.has 'i' then some (s!"sed: couldn\x27t edit {path}: not a regular file\n", 4)
            else some (s!"sed: read error on {path}: {SystemError.words .isADirectory}\n", 4)
          | .error e => some (s!"sed: can\x27t read {path}: {e.words}\n", 2)
          | .ok _ => none
        let files := inputs.filterMap fun (path, content) =>
          content.toOption.map fun bytes => (path, Editing.linesIn last path bytes)
        let separate := options.has 's' || options.has 'i'
        let runOn (s : Editing.State) : Editing.State :=
          match s.takeUp settings false with
          | some s => s.run settings Editing.stepLimit 0
          | none => s
        let lines := if separate then files.flatMap fun (_, lines) => Editing.numberedLines lines
          else Editing.numberedLines (files.flatMap Prod.snd)
        let written (disk : Files.Disk) (s : Editing.State) : Files.Disk :=
          s.files.foldl (fun disk (path, paper) =>
            ((disk.write (Raw.toText path) paper.content).toOption).getD disk) disk
        let failed := (faults.map Prod.snd).getLast?
        let report (f : Finished) (changed : Option Files.Disk) : Finished :=
          { f with
            stderr := Raw.bytes (String.join (faults.map Prod.fst)) ++ f.stderr
            ending := match f.ending, failed with
              | .exited 0, some code => .exited code
              | ending, _ => ending
            changed := changed
            unread := if inputs.any fun (path, _) => isInput path then some [] else none }
        if options.has 'i' then
          let backup := (options.value? 'i').getD ""
          let edit (state : Files.Disk × Finished) (file : String × List Line) : Files.Disk × Finished :=
            let (disk, f) := state
            let s := runOn (Editing.State.start commands (Editing.numberedLines file.2))
            let path := Raw.toText file.1
            let disk := if backup = "" then disk else
              ((disk.write (path ++ Raw.toText backup) ((disk.read path).toOption.getD [])).toOption).getD disk
            let disk := ((written disk s).write path s.output.content).toOption.getD disk
            (disk, f.followedBy { s.left sources.length with stdout := [] })
          let (disk, f) := files.foldl edit (found.disk, .silent 0)
          report f (some disk)
        else
          let s := runOn (Editing.State.start commands lines)
          let done := report (s.left sources.length) (if s.files.isEmpty then none else some (written found.disk s))
          -- A file is read no further than the script asks.
          let rest := (s.lines.filter fun l => isInput l.file).flatMap fun l =>
            Raw.bytesOfCharacters l.text ++ (if l.isEnded then [last] else [])
          { done with unread := done.unread.map fun _ => if found.isFile then rest else [] }

end Emplace.Program.Utility
