import Emplace.Text.Blank

namespace Emplace.Program.Shell

inductive Fault
  | openQuote
  | openBrace
  | openArithmetic
  | openBackquote
  | loopVariable
  | functionName
  | unexpected (found : String) (wanted : Option String)
  deriving DecidableEq, Repr, Inhabited

def Fault.text : Fault → String
  | .openQuote => "Unterminated quoted string"
  | .openBrace => "Missing '\x7d'"
  | .openArithmetic => "Missing '))'"
  | .openBackquote => "EOF in backquote substitution"
  | .loopVariable => "Bad for loop variable"
  | .functionName => "Bad function name"
  | .unexpected found none => s!"{found} unexpected"
  | .unexpected found (some wanted) => s!"{found} unexpected (expecting {wanted})"

def Fault.ended (wanted : Option String) : Fault := .unexpected "end of file" wanted

inductive Piece
  | char (c : Char) (quoted : Bool)
  | quotes
  | parameter (body : List Char) (quoted : Bool)
  | output (script : List Char) (backquoted quoted : Bool)
  | number (expression : List Char) (quoted : Bool)
  deriving DecidableEq, Repr, Inhabited

abbrev Word := List Piece

def isNameChar (c : Char) : Bool := c.isAlphanum || c == '_'

def isName (cs : List Char) : Bool :=
  cs.all isNameChar && (cs.head?.map fun c => !c.isDigit).getD false

def specialNames : List Char := ['$', '?', '#', '@', '*', '!', '-']

def isBreak (c : Char) : Bool := [' ', '\t', '\n', ';', '&', '|', '<', '>', '(', ')'].contains c

inductive Closer
  | sign (c : Char)
  | choice
  deriving DecidableEq, Repr, Inhabited

def Closer.fault : Closer → Fault
  | .sign '"' | .sign '\x27' => .openQuote
  | .sign '\x7d' => .openBrace
  | _ => .ended (some "\")\"")

inductive Spot
  | inWord
  | atWord
  | atCommand
  deriving DecidableEq, Repr, Inhabited

def Spot.next (spot : Spot) (c : Char) : Spot :=
  if c == ' ' || c == '\t' then if spot = .atCommand then .atCommand else .atWord
  else if isBreak c then .atCommand
  else .inWord

def stripWord? (word cs : List Char) : Option (List Char) :=
  (Text.stripStart? word cs).filter fun rest => (rest.head?.map isBreak).getD true

/-- Splits a text behind the closers that are awaited, innermost first; quotes and brackets opened on the way are
closed before. At most `bound` characters are read. Where the text ends early, the closer is told that it lacks. -/
def closed : (bound : Nat) → (awaited : List Closer) → Spot → List Char → Except Closer (List Char × List Char)
  | _, [], _, rest => .ok ([], rest)
  | 0, top :: _, _, _ => .error top
  | _, top :: _, _, [] => .error top
  | bound + 1, top :: below, spot, c :: rest =>
    let pass (front : List Char) (awaited : List Closer) (spot : Spot) (rest : List Char) :=
      (closed bound awaited spot rest).map fun (inner, rest) => (front ++ inner, rest)
    let onward (awaited : List Closer) := pass [c] awaited (spot.next c) rest
    let isScript := top = .choice || top = .sign ')'
    if top = .sign c then pass (if below.isEmpty then [] else [c]) below (spot.next c) rest
    else if top = .sign '\x27' then onward (top :: below)
    else if isScript && c == '#' && spot ≠ .inWord then
      let comment := (c :: rest).takeWhile (· != '\n')
      pass comment (top :: below) .atCommand ((c :: rest).drop comment.length)
    else
      match if isScript && spot = .atCommand then stripWord? "case".toList (c :: rest) else none,
        if top = .choice && spot = .atCommand then stripWord? "esac".toList (c :: rest) else none with
      | some rest, _ => pass "case".toList (.choice :: top :: below) .inWord rest
      | none, some rest => pass "esac".toList below .inWord rest
      | none, none =>
        match c, rest with
        | '\\', d :: rest => pass [c, d] (top :: below) .inWord rest
        | '$', '\x7b' :: rest => pass [c, '\x7b'] (.sign '\x7d' :: top :: below) .inWord rest
        | '$', '(' :: rest => pass [c, '('] (.sign ')' :: top :: below) .atCommand rest
        | '"', _ => onward (.sign '"' :: top :: below)
        | '\x27', _ => onward (if top = .sign '"' then top :: below else .sign '\x27' :: top :: below)
        | '(', _ => onward (if top = .sign ')' then .sign ')' :: top :: below else top :: below)
        | _, _ => onward (top :: below)

def closedBy (c : Char) (cs : List Char) : Except Fault (List Char × List Char) :=
  (closed (cs.length + 1) [.sign c] .atCommand cs).mapError Closer.fault

def backquoted : List Char → Option (List Char × List Char)
  | [] => none
  | '\x60' :: rest => some ([], rest)
  | '\\' :: c :: rest =>
    (backquoted rest).map fun (inner, rest) =>
      (if ['\x60', '\\', '$'].contains c then c :: inner else '\\' :: c :: inner, rest)
  | c :: rest => (backquoted rest).map fun (inner, rest) => (c :: inner, rest)

def dollar (quoted : Bool) : List Char → Except Fault (Piece × List Char)
  | '(' :: '(' :: rest =>
    match closedBy ')' rest with
    | .ok (inner, ')' :: rest) => .ok (.number inner quoted, rest)
    | _ => .error .openArithmetic
  | '(' :: rest => (closedBy ')' rest).map fun (inner, rest) => (.output inner false quoted, rest)
  | '\x7b' :: rest => (closedBy '\x7d' rest).map fun (inner, rest) => (.parameter inner quoted, rest)
  | c :: rest =>
    if specialNames.contains c || c.isDigit then .ok (.parameter [c] quoted, rest)
    else if isNameChar c then
      .ok (.parameter ((c :: rest).takeWhile isNameChar) quoted, (c :: rest).dropWhile isNameChar)
    else .ok (.char '$' quoted, c :: rest)
  | [] => .ok (.char '$' quoted, [])

inductive Reading
  | word
  | quoted
  | whole
  deriving DecidableEq, Repr, Inhabited

def pieces : (bound : Nat) → Reading → List Char → Except Fault (Word × List Char)
  | 0, _, _ => .error .openQuote
  | _, .quoted, [] => .error .openQuote
  | _, _, [] => .ok ([], [])
  | bound + 1, reading, c :: rest => do
    let quoted : Bool := reading = .quoted
    let onward (front : Word) (rest : List Char) : Except Fault (Word × List Char) := do
      let (w, rest) ← pieces bound reading rest
      return (front ++ w, rest)
    if c == '"' then
      if quoted then return ([], rest)
      let (inner, rest) ← pieces bound .quoted rest
      onward (.quotes :: inner) rest
    else if c == '\x27' && !quoted then
      let (inner, rest) ← closedBy '\x27' rest
      onward (.quotes :: inner.map (.char · true)) rest
    else if c == '\\' then
      match rest with
      | '\n' :: rest => onward [] rest
      | d :: rest =>
        if !quoted || ['"', '\\', '$', '\x60'].contains d then onward [.char d true] rest
        else onward [.char c true, .char d true] rest
      | [] => onward [.char c true] []
    else if c == '\x60' then
      match backquoted rest with
      | some (inner, rest) => onward [.output inner true quoted] rest
      | none => .error .openBackquote
    else if c == '$' then
      let (piece, rest) ← dollar quoted rest
      onward [piece] rest
    else if isBreak c && reading = .word then return ([], c :: rest)
    else onward [.char c quoted] rest

def word (cs : List Char) : Except Fault (Word × List Char) := pieces (cs.length + 1) .word cs

def quotesEscaped : List Char → List Char
  | [] => []
  | '\\' :: '"' :: rest => '\\' :: '\\' :: '\\' :: '"' :: quotesEscaped rest
  | '\\' :: c :: rest => '\\' :: c :: quotesEscaped rest
  | '"' :: rest => '\\' :: '"' :: quotesEscaped rest
  | c :: rest => c :: quotesEscaped rest

def quotesDropped : List Char → List Char
  | [] => []
  | '\\' :: c :: rest => '\\' :: c :: quotesDropped rest
  | '"' :: rest => quotesDropped rest
  | c :: rest => c :: quotesDropped rest

def quotedPieces (cs : List Char) : Except Fault Word :=
  (pieces (cs.length + 2) .quoted (cs ++ ['"'])).map Prod.fst

def wholePieces (cs : List Char) : Except Fault Word := (pieces (cs.length + 1) .whole cs).map Prod.fst

def Word.plain? (w : Word) : Option String :=
  (w.mapM fun (p : Piece) => match p with
    | .char c false => some c
    | _ => none).map String.ofList

def Word.assignment? (w : Word) : Option (String × Word) :=
  let name := w.takeWhile fun p => match p with
    | .char c false => isNameChar c
    | _ => false
  match Word.plain? name, w.drop name.length with
  | some text, .char '=' false :: value => if isName text.toList then some (text, value) else none
  | _, _ => none

end Emplace.Program.Shell
