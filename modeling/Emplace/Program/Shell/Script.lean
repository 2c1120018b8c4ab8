import Emplace.Program.Shell.Word
import Emplace.Text.Numeral

namespace Emplace.Program.Shell

inductive Direction
  | input
  | output
  | over
  | append
  | both
  | duplicate
  | here (dropped : Bool)
  deriving DecidableEq, Repr, Inhabited

inductive Token
  | word (w : Word)
  | operator (text : String)
  | redirection (stream : Nat) (direction : Direction)
  | fault (f : Fault)
  deriving DecidableEq, Repr, Inhabited

abbrev Tokens := List (Nat × Token)

def operators : List String := ["&&", "||", ";;", "&", "|", ";", "(", ")", "\n"]

def redirections : List (String × Nat × Direction) :=
  [("<<-", 0, .here true), (">>", 1, .append), (">&", 1, .duplicate), (">|", 1, .over), ("<<", 0, .here false),
    ("<&", 0, .duplicate), ("<>", 0, .both), (">", 1, .output), ("<", 0, .input)]

def redirection? (cs : List Char) : Option (Token × List Char) :=
  let (stream, body) : Option Nat × List Char := match cs with
    | c :: rest => if c.isDigit then (some (Text.digitsValue [c]), rest) else (none, cs)
    | [] => (none, [])
  redirections.findSome? fun (sign, own, direction) =>
    (Text.stripStart? sign.toList body).map fun rest => (.redirection (stream.getD own) direction, rest)

def operator? (cs : List Char) : Option (String × List Char) :=
  operators.findSome? fun sign => (Text.stripStart? sign.toList cs).map (sign, ·)

/-! ### Lines of input in a script -/

structure Announced where
  last : String
  quoted : Bool
  dropped : Bool
  deriving DecidableEq, Repr, Inhabited

def announced (w : Word) (dropped : Bool) : Announced :=
  let char? (p : Piece) : Option Char := match p with
    | .char c _ => some c
    | _ => none
  let isQuoted (p : Piece) : Bool := match p with
    | .char _ quoted => quoted
    | .quotes => true
    | _ => false
  ⟨String.ofList (w.filterMap char?), w.any isQuoted, dropped⟩

def Announced.take (a : Announced) (cs : List Char) : Except Fault (Word × List Char) :=
  let body := ((String.ofList cs).splitOn "\n").map fun line =>
    if a.dropped then line.toList.dropWhile (· == '\t') else line.toList
  let inner := body.takeWhile (· != a.last.toList)
  let text := (inner.map (· ++ ['\n'])).flatten
  -- Where the end is missing, the text ends the lines.
  let text := if inner.length = body.length then text.dropLast else text
  let behind := (((String.ofList cs).splitOn "\n").drop (inner.length + 1)).map String.toList
  let rest := ['\n'].intercalate behind
  if a.quoted then .ok (text.map (.char · true), rest)
  else do return (← quotedPieces (quotesEscaped text), rest)

def takeAnnounced : List Announced → List Char → Except Fault (List Word × List Char)
  | [], cs => .ok ([], cs)
  | a :: more, cs => do
    let (w, cs) ← a.take cs
    let (words, cs) ← takeAnnounced more cs
    return (w :: words, cs)

def cut : (bound line : Nat) → (next : Option Bool) → List Announced → List Char → Tokens × List Word
  | 0, _, _, _, _ => ([], [])
  | _, _, _, awaited, [] => ([], awaited.map fun _ => [])
  | bound + 1, line, next, awaited, c :: rest =>
    let lines (before after : List Char) : Nat := (before.take (before.length - after.length)).count '\n'
    let onward (token : Token) (further : Tokens × List Word) : Tokens × List Word :=
      ((line, token) :: further.1, further.2)
    if c == ' ' || c == '\t' then cut bound line next awaited rest
    else if c == '#' then cut bound line none awaited (rest.dropWhile (· != '\n'))
    else if c == '\\' && rest.head? == some '\n' then cut bound (line + 1) next awaited (rest.drop 1)
    else if c == '\n' then
      match takeAnnounced awaited rest with
      | .ok (words, after) =>
        let further := cut bound (line + 1 + lines rest after) none [] after
        onward (.operator "\n") (further.1, words ++ further.2)
      | .error f => ([(line, .fault f)], [])
    else
      match redirection? (c :: rest), operator? (c :: rest) with
      | some (token, rest), _ =>
        let next := match token with
          | .redirection _ (.here dropped) => some dropped
          | _ => none
        onward token (cut bound line next awaited rest)
      | none, some (sign, rest) => onward (.operator sign) (cut bound line none awaited rest)
      | none, none =>
        match word (c :: rest) with
        | .ok (w, after) =>
          onward (.word w) <| cut bound (line + lines (c :: rest) after) none
            (awaited ++ (next.map fun dropped => announced w dropped).toList) after
        | .error f => ([(line, .fault f)], [])

def attach : Tokens → List Word → Tokens
  | (line, .redirection stream (.here dropped)) :: (_, .word _) :: rest, w :: words =>
    (line, .redirection stream (.here dropped)) :: (line, .word w) :: attach rest words
  | t :: rest, words => t :: attach rest words
  | [], _ => []

def tokens (line : Nat) (cs : List Char) : Tokens :=
  let (ts, words) := cut (cs.length + 1) line none [] cs
  attach ts words

def keywords : List String :=
  ["if", "then", "elif", "else", "fi", "while", "until", "for", "in", "do", "done", "case", "esac", "\x7b",
    "\x7d", "!"]

def Token.sign? : Token → Option String
  | .operator text => some text
  | .word w => (Word.plain? w).filter keywords.contains
  | _ => none

def Token.shown (t : Token) : String :=
  match t, t.sign? with
  | .operator "\n", _ => "newline"
  | _, some sign => "\"" ++ sign ++ "\""
  | .word _, none => "word"
  | .redirection .., none => "redirection"
  | _, none => "end of file"

structure Redirection where
  stream : Nat
  direction : Direction
  target : Word
  deriving DecidableEq, Repr, Inhabited

inductive Script
  | empty
  | simple (line : Nat) (words : List Word) (redirections : List Redirection)
  | inOrder (first second : Script)
  | both (first second : Script)
  | either (first second : Script)
  | negated (body : Script)
  | pipe (first second : Script)
  | subshell (body : Script)
  | group (body : Script)
  | conditional (condition yes no : Script)
  | loop (condition : Script) (expected : Bool) (body : Script)
  | each (line : Nat) (name : String) (words : Option (List Word)) (body : Script)
  | choice (line : Nat) (subject : Word) (branches : List (List Word × Script))
  | function (name : String) (body : Script)
  | redirected (body : Script) (redirections : List Redirection)
  | background (body : Script)
  deriving Inhabited

structure Refusal where
  fault : Fault
  line : Option Nat
  deriving DecidableEq, Repr, Inhabited

abbrev TokenReader (α : Type) := Tokens → Except Refusal (α × Tokens)

def nextSign? (ts : Tokens) : Option String := ts.head?.bind fun t => t.2.sign?

/-- The line of the first token; a line end counts as part of the next line. -/
def lineOf? (ts : Tokens) : Option Nat :=
  ts.head?.map fun (line, t) => if t = .operator "\n" then line + 1 else line

def faulty (f : Fault) (ts : Tokens) : Refusal := ⟨f, lineOf? ts⟩

def refused (wanted : Option String) (ts : Tokens) : Refusal :=
  match ts with
  | [] => ⟨.ended wanted, none⟩
  | (_, .fault f) :: _ => ⟨f, none⟩
  | (_, t) :: _ => faulty (.unexpected t.shown wanted) ts

def expect (sign : String) : TokenReader Unit := fun ts =>
  if nextSign? ts = some sign then .ok ((), ts.drop 1) else .error (refused (some ("\"" ++ sign ++ "\"")) ts)

def skipLines (ts : Tokens) : Tokens := ts.dropWhile fun t => t.2 == .operator "\n"

def listEnds : List String := ["then", "elif", "else", "fi", "do", "done", "esac", "\x7d", ")", ";;"]

def readRedirections : TokenReader (List Redirection)
  | (_, .redirection stream direction) :: (_, .word target) :: rest => do
    let (more, rest) ← readRedirections rest
    return (⟨stream, direction, target⟩ :: more, rest)
  | (_, .redirection ..) :: rest => .error (refused none rest)
  | rest => .ok ([], rest)

abbrev Aliases := List (String × String)

def splice (aliases : Aliases) : (bound : Nat) → (used : List String) → Tokens → Tokens
  | 0, _, ts => ts
  | bound + 1, used, ts =>
    match ts with
    | (line, .word w) :: rest =>
      match (Word.plain? w).bind fun name =>
        if keywords.contains name || used.contains name then none else (aliases.lookup name).map (name, ·) with
      | none => ts
      | some (name, text) =>
        let endsOpen := (text.toList.getLast?.map fun c => c == ' ' || c == '\t').getD false
        let rest := if endsOpen then splice aliases bound [] rest else rest
        match tokens line text.toList with
        | [] => splice aliases bound used rest
        | inner => splice aliases bound (name :: used) (inner ++ rest)
    | ts => ts

def spliceLimit : Nat := 100

/-- Reads the words and redirections of a simple command; at most `bound` of them are read. Behind values that are given
to variables a command still starts. -/
def readSimple (aliases : Aliases) : (bound : Nat) → (atStart : Bool) → TokenReader (List Word × List Redirection)
  | 0, _, rest => .ok (([], []), rest)
  | bound + 1, atStart, ts =>
    match if atStart then splice aliases spliceLimit [] ts else ts with
    | (_, .word w) :: rest => do
      let isAssignment := (Word.assignment? w).isSome
      let ((words, redirections), rest) ← readSimple aliases bound (atStart && isAssignment) rest
      return ((w :: words, redirections), rest)
    | (_, .redirection stream direction) :: (_, .word target) :: rest => do
      let ((words, redirections), rest) ← readSimple aliases bound false rest
      return ((words, ⟨stream, direction, target⟩ :: redirections), rest)
    | (_, .redirection ..) :: rest => .error (refused none rest)
    | rest => .ok (([], []), rest)

def readWords : TokenReader (List Word)
  | (_, .word w) :: rest => do
    let (words, rest) ← readWords rest
    return (w :: words, rest)
  | (_, .operator ";") :: rest | (_, .operator "\n") :: rest => .ok ([], rest)
  | rest => .error (refused none rest)

def readPatterns : TokenReader (List Word)
  | (_, .word w) :: (_, .operator "|") :: rest => do
    let (more, rest) ← readPatterns rest
    return (w :: more, rest)
  | (_, .word w) :: rest => do
    let (_, rest) ← expect ")" rest
    return ([w], rest)
  | rest => .error (refused (some "\")\"") rest)

section

variable (aliases : Aliases)

mutual

def readList : (bound : Nat) → (nested started : Bool) → TokenReader Script
  | 0, _, _ => fun ts => .error (refused none ts)
  | bound + 1, nested, started => fun ts => do
    let ts := if nested then skipLines ts else ts
    match ts with
    | [] => return (.empty, [])
    | (_, .operator "\n") :: rest => return (.empty, rest)
    | _ =>
      if nested && started && ((nextSign? ts).map listEnds.contains).getD false then return (.empty, ts)
      let (first, rest) ← readAndOr bound ts
      match rest with
      | [] => return (first, [])
      | (_, .operator ";") :: rest =>
        let (more, rest) ← readList bound nested true rest
        return (.inOrder first more, rest)
      | (_, .operator "&") :: rest =>
        let (more, rest) ← readList bound nested true rest
        return (.inOrder (.background first) more, rest)
      | (_, .operator "\n") :: _ =>
        let (more, rest) ← readList bound nested true rest
        return (.inOrder first more, rest)
      | _ => if nested then return (first, rest) else .error (refused none rest)

def readAndOr : (bound : Nat) → TokenReader Script
  | 0 => fun ts => .error (refused none ts)
  | bound + 1 => fun ts => do
    let (first, rest) ← readPipeline bound ts
    readJoined bound first rest

def readJoined : (bound : Nat) → Script → TokenReader Script
  | 0, _ => fun ts => .error (refused none ts)
  | bound + 1, before => fun ts =>
    match ts with
    | (_, .operator "&&") :: rest => do
      let (next, rest) ← readPipeline bound (skipLines rest)
      readJoined bound (.both before next) rest
    | (_, .operator "||") :: rest => do
      let (next, rest) ← readPipeline bound (skipLines rest)
      readJoined bound (.either before next) rest
    | _ => .ok (before, ts)

def readPipeline : (bound : Nat) → TokenReader Script
  | 0 => fun ts => .error (refused none ts)
  | bound + 1 => fun ts => do
    if nextSign? ts = some "!" then
      let (body, rest) ← readPiped bound (ts.drop 1)
      return (.negated body, rest)
    else readPiped bound ts

def readPiped : (bound : Nat) → TokenReader Script
  | 0 => fun ts => .error (refused none ts)
  | bound + 1 => fun ts => do
    let (first, rest) ← readCommand bound ts
    match rest with
    | (_, .operator "|") :: rest =>
      let (next, rest) ← readPiped bound (skipLines rest)
      return (.pipe first next, rest)
    | _ => return (first, rest)

def readCommand : (bound : Nat) → TokenReader Script
  | 0 => fun ts => .error (refused none ts)
  | bound + 1 => fun ts =>
    let ts := splice aliases spliceLimit [] ts
    let compound (body : TokenReader Script) : Except Refusal (Script × Tokens) := do
      let (c, rest) ← body (ts.drop 1)
      let (redirections, rest) ← readRedirections rest
      return (if redirections.isEmpty then c else .redirected c redirections, rest)
    match ts, nextSign? ts with
    | _, some "(" => compound fun ts => do
      let (body, rest) ← readList bound true false ts
      let (_, rest) ← expect ")" rest
      return (.subshell body, rest)
    | _, some "\x7b" => compound fun ts => do
      let (body, rest) ← readList bound true false ts
      let (_, rest) ← expect "\x7d" rest
      return (.group body, rest)
    | _, some "if" => compound (readConditional bound)
    | _, some "while" => compound (readLoop bound true)
    | _, some "until" => compound (readLoop bound false)
    | _, some "for" => compound (readEach bound)
    | _, some "case" => compound fun ts =>
      match ts with
      | (line, .word subject) :: rest => do
        let (_, rest) ← expect "in" (skipLines rest)
        let (branches, rest) ← readBranches bound (skipLines rest)
        return (.choice line subject branches, rest)
      | rest => .error (refused (some "word") rest)
    | (_, .word w) :: (_, .operator "(") :: rest, none => do
      let (_, rest) ← expect ")" rest
      match (Word.plain? w).filter fun name => isName name.toList with
      | some name =>
        let (body, rest) ← readCommand bound (skipLines rest)
        return (.function name body, rest)
      | none => .error (faulty .functionName ts)
    | (line, .word _) :: _, none | (line, .redirection ..) :: _, none => do
      let ((words, redirections), rest) ← readSimple aliases (ts.length + spliceLimit) true ts
      return (.simple line words redirections, rest)
    | _, _ => .error (refused none ts)

def readConditional : (bound : Nat) → TokenReader Script
  | 0 => fun ts => .error (refused none ts)
  | bound + 1 => fun ts => do
    let (condition, rest) ← readList bound true false ts
    let (_, rest) ← expect "then" rest
    let (yes, rest) ← readList bound true false rest
    match nextSign? rest with
    | some "elif" =>
      let (no, rest) ← readConditional bound (rest.drop 1)
      return (.conditional condition yes no, rest)
    | some "else" =>
      let (no, rest) ← readList bound true false (rest.drop 1)
      let (_, rest) ← expect "fi" rest
      return (.conditional condition yes no, rest)
    | _ =>
      let (_, rest) ← expect "fi" rest
      return (.conditional condition yes .empty, rest)

def readLoop : (bound : Nat) → (expected : Bool) → TokenReader Script
  | 0, _ => fun ts => .error (refused none ts)
  | bound + 1, expected => fun ts => do
    let (condition, rest) ← readList bound true false ts
    let (_, rest) ← expect "do" rest
    let (body, rest) ← readList bound true false rest
    let (_, rest) ← expect "done" rest
    return (.loop condition expected body, rest)

def readEach : (bound : Nat) → TokenReader Script
  | 0 => fun ts => .error (refused none ts)
  | bound + 1 => fun ts =>
    match ts with
    | (line, .word w) :: rest =>
      match (Word.plain? w).filter fun name => isName name.toList with
      | none => .error (faulty .loopVariable ts)
      | some name => do
        let rest := skipLines rest
        let (words, rest) ← if nextSign? rest = some "in" then do
            let (words, rest) ← readWords (rest.drop 1)
            pure (some words, rest)
          else pure (none, if nextSign? rest = some ";" then rest.drop 1 else rest)
        let (_, rest) ← expect "do" (skipLines rest)
        let (body, rest) ← readList bound true false rest
        let (_, rest) ← expect "done" rest
        return (.each line name words body, rest)
    | (_, .fault f) :: _ => .error ⟨f, none⟩
    | _ => .error (faulty .loopVariable ts)

def readBranches : (bound : Nat) → TokenReader (List (List Word × Script))
  | 0 => fun ts => .error (refused none ts)
  | bound + 1 => fun ts => do
    if nextSign? ts = some "esac" then return ([], ts.drop 1)
    let (patterns, rest) ← readPatterns (if nextSign? ts = some "(" then ts.drop 1 else ts)
    let (body, rest) ← readList bound true true rest
    if nextSign? rest = some "esac" then return ([(patterns, body)], rest.drop 1)
    let (_, rest) ← expect ";;" rest
    let (more, rest) ← readBranches bound (skipLines rest)
    return ((patterns, body) :: more, rest)

end

def readLine (ts : Tokens) : Except Refusal (Script × Tokens) :=
  readList aliases (8 * (ts.length + spliceLimit)) false false ts

def Fault.beforeBracket : Fault → Fault
  | .unexpected "end of file" _ => .unexpected "\")\"" none
  | f => f

def refusalFrom : (bound : Nat) → Tokens → Option Refusal
  | 0, _ => none
  | _, [] => none
  | bound + 1, ts =>
    match readLine aliases ts with
    | .error refusal => some refusal
    | .ok (_, rest) => refusalFrom bound rest

def innerRefusal (line : Nat) : (depth : Nat) → Word → Option Refusal
  | 0, _ => none
  | depth + 1, w =>
    w.findSome? fun p => match p with
      | .output script backquoted _ =>
        let ts := tokens (if backquoted then 1 else line) script
        (ts.findSome? fun (line, t) => match t with
          | .word w => innerRefusal line depth w
          | _ => none) <|>
          (refusalFrom aliases (ts.length + 1) ts).map fun r =>
            { r with
              fault := if backquoted then r.fault else r.fault.beforeBracket
              line := r.line <|> some (line + script.count '\n') }
      | .parameter body _ =>
        match wholePieces body with
        | .ok w => innerRefusal line depth w
        | .error _ => none
      | _ => none

def readLineDeeply (ts : Tokens) : Except Refusal (Script × Tokens) := do
  let (script, rest) ← readLine aliases ts
  let read := ts.take (ts.length - rest.length)
  match read.findSome? fun (line, t) => match t with
    | .word w => innerRefusal aliases line 16 w
    | _ => none with
  | some refusal => .error refusal
  | none => return (script, rest)

end

end Emplace.Program.Shell
