import Emplace.Program.Format
import Emplace.Program.Launcher.Setting

namespace Emplace.Program.Launcher

open Shell (State)

inductive Item
  | word (text : String)
  | lineEnd (goesOn : Bool)
  deriving DecidableEq, Repr, Inhabited

def itemOf (word : Option (List Char)) : List Item := (word.map fun cs => Item.word (String.ofList cs)).toList

def quotedItems (split : Bool) :
    (bound : Nat) → (word : Option (List Char)) → (blank : Bool) → List Char → List Item × Option Char
  | 0, word, _, _ => (itemOf word, none)
  | _, word, _, [] => (itemOf word, none)
  | bound + 1, word, blank, c :: rest =>
    let onward (front : List Item) (word : Option (List Char)) (blank : Bool) (rest : List Char) :=
      let (items, left) := quotedItems split bound word blank rest
      (front ++ items, left)
    let adding (cs : List Char) : Option (List Char) := some (word.getD [] ++ cs)
    if c == '\n' then onward (itemOf word ++ [.lineEnd blank]) none false rest
    else if c == '"' || c == '\x27' then
      let inner := rest.takeWhile fun d => d != c && d != '\n'
      match rest.drop inner.length with
      | d :: rest => if d == c then onward [] (adding inner) false rest else ([], some c)
      | [] => ([], some c)
    else if c == '\\' then
      match rest with
      | d :: rest => onward [] (adding [d]) false rest
      | [] => onward [] word blank []
    else if c == ' ' || c == '\t' then
      if split then onward (itemOf word) none true rest
      else onward [] (word.map (· ++ [c])) true rest
    else onward [] (adding [c]) false rest

def delimitedItems (delimiter : Char) (text : String) : List Item :=
  let parts := text.splitOn delimiter.toString
  (if parts.getLast? = some "" then parts.dropLast else parts).map .word

def delimiterOf? (arg : String) : Option Char :=
  match arg.toList with
  | [c] => some c
  | '\\' :: _ =>
    match (Dialect.shell.argumentEscapes.bytes arg).1 with
    | [b] => some (Char.ofNat b.toNat)
    | _ => none
  | _ => none

structure Portion where
  items : Option Nat
  lines : Option Nat
  size : Nat
  deriving DecidableEq, Repr, Inhabited

/-- The items that are used together, and whether an item is too long; `front` is the length of what stands before
them. The items of the group that is being formed come last first, with their length and the number of full lines. -/
def groupsOf (p : Portion) (front : Nat) :
    (group : List String) → (length lines : Nat) → List Item → List (List String) × Bool
  | group, _, _, [] => (if group.isEmpty then [] else [group.reverse], false)
  | group, length, lines, .lineEnd goesOn :: rest =>
    let lines := if goesOn || group.isEmpty then lines else lines + 1
    if p.lines = some lines && !group.isEmpty then
      let (groups, isLong) := groupsOf p front [] 0 0 rest
      (group.reverse :: groups, isLong)
    else groupsOf p front group length lines rest
  | group, length, lines, .word text :: rest =>
    let own := text.length + 1
    let isFull := p.items = some group.length || p.size < front + length + own
    if p.size < front + own then (if group.isEmpty then [] else [group.reverse], true)
    else if isFull && !group.isEmpty then
      let (groups, isLong) := groupsOf p front [text] own 0 rest
      (group.reverse :: groups, isLong)
    else groupsOf p front (text :: group) (length + own) lines rest

def commandLimit : Nat := 131072

inductive RunFault
  | refused (e : SystemError)
  | stopped
  | killed (signal : Nat)
  deriving DecidableEq, Repr, Inhabited

def runEach (start : Start) (called : String) (call : Call) (told : Bool) :
    (status : Nat) → List (List String) → State → State × Nat
  | status, [], s => (s, status)
  | status, args :: rest, s =>
    let s := if told then s.sayPlainly (" ".intercalate ((call.name :: args).map shownWord)) else s
    let stopped (s : State) (words : String) (status : Nat) : State × Nat :=
      (s.sayPlainly s!"{called}: {words}", status)
    match start s { call with args := args } with
    | .error e => stopped s s!"{call.name}: {e.words}" (faultStatus e)
    | .ok (s, .exited 255) => stopped s s!"{call.name}: exited with status 255; aborting" 124
    | .ok (s, .killed signal) => stopped s s!"{call.name}: terminated by signal {signal}" 125
    | .ok (s, .exited code) => runEach start called call told (if code = 0 then status else 123) rest s

def countFault? (options : GivenOptions) : Option String :=
  options.findSome? fun o =>
    if !(['n', 'L', 's', 'P'].contains o.letter) then none
    else
      (o.value.bind fun text =>
        match Text.digits? text.toList with
        | some n => if 0 < n || o.letter == 'P' then none else
            some s!"value {text} for -{o.letter} option should be >= 1"
        | none => some s!"invalid number \"{text}\" for -{o.letter} option")

def repeatedOptions : List Known :=
  [⟨'0', "null", .nothing⟩, ⟨'a', "arg-file", .value⟩, ⟨'d', "delimiter", .value⟩, ⟨'E', "", .value⟩,
    ⟨'e', "eof", .perhaps⟩, ⟨'I', "", .value⟩, ⟨'i', "replace", .perhaps⟩, ⟨'L', "", .value⟩,
    ⟨'l', "max-lines", .perhaps⟩, ⟨'n', "max-args", .value⟩, ⟨'o', "open-tty", .nothing⟩,
    ⟨'P', "max-procs", .value⟩, ⟨'p', "interactive", .nothing⟩, ⟨'r', "no-run-if-empty", .nothing⟩,
    ⟨'s', "max-chars", .value⟩, ⟨'t', "verbose", .nothing⟩, ⟨'x', "exit", .nothing⟩]

def xargs : Launcher := fun start s call =>
  let g : Grammar := { name := call.name, known := repeatedOptions, mixed := false }
  let failed (s : State) (message : String) : State × Ending :=
    s.take call.name call.name (.complained s!"{call.name}: {message}" 1)
  match g.read (call.args.length + 1) call.args with
  | .error f => leaving s call.name f
  | .ok (options, args) =>
    let number? (letter : Char) : Option Nat := (options.value? letter).bind fun text => Text.digits? text.toList
    let sign := options.value? 'I' <|> if options.has 'i' then some ((options.value? 'i').getD "\x7b\x7d") else none
    let delimiter? := if options.has '0' then some "\x00" else options.value? 'd'
    let lines := number? 'L' <|> if options.has 'l' then some ((number? 'l').getD 1) else none
    let portion : Portion := ⟨if sign.isSome then some 1 else number? 'n', if sign.isSome then some 1 else lines,
      (number? 's').getD commandLimit⟩
    let content : Except SystemError (Bytes × State) := match options.value? 'a' with
      | some path => (s.disk.read (Raw.toText path)).map fun bytes => (bytes, s)
      | none =>
        let bytes := (s.sourceOf 0).bytes
        .ok (bytes, { s.withRest 0 [] with streams := (s.lead 0 .nothing).streams })
    let ended (after : State) : State := { after with streams := s.streams }
    let name := args.headD "echo"
    let front := args.drop 1
    match countFault? options, content with
    | some fault, _ => leaving s call.name (g.refuse fault)
    | none, .error e =>
      failed s ("Cannot open input file " ++ inQuotes ((options.value? 'a').getD "") ++ ": " ++ e.words)
    | none, .ok (bytes, s) =>
      let text := Raw.ofBytes bytes
      let delimiter := delimiter?.bind delimiterOf?
      let (items, open?) : List Item × Option Char := match delimiter with
        | some c => (delimitedItems c text, none)
        | none => quotedItems sign.isNone (text.length + 1) none false text.toList
      let last := options.value? 'E' <|> options.value? 'e'
      let items := match last with
        | some word => items.takeWhile fun item => item ≠ .word word
        | none => items
      let length := (String.join ((name :: front).map fun arg => arg ++ " ")).length
      let (groups, isLong) := groupsOf portion length [] 0 0 items
      let groups := if open?.isSome && portion.items.isNone then groups.dropLast else groups
      let isIdle := items.all (fun item => item matches .lineEnd _) && open?.isNone
      let commands := match sign with
        | some sign => groups.map fun group => front.map fun arg =>
            (" ".intercalate group).intercalate (arg.splitOn sign)
        | none => if isIdle && !options.has 'r' then [front] else groups.map (front ++ ·)
      if delimiter?.isSome && delimiter.isNone then
        failed (ended s) ("Invalid input delimiter specification " ++ delimiter?.getD "" ++
          ": the delimiter must be either a single character or an escape sequence starting with \\.")
      else if portion.size < length then
        failed (ended s) "cannot fit single argument within argument list size limit"
      else
        let (after, status) := runEach start call.name { call with name := name } (options.has 't') 0 commands s
        let after := ended after
        let kind := if open? = some '"' then "double" else "single"
        if open?.isSome then
          failed after s!"unmatched {kind} quote; by default quotes are special to xargs unless you use the -0 option"
        else if isLong then failed after "argument line too long"
        else (after, .exited status)

end Emplace.Program.Launcher
