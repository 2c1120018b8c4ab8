import Emplace.Text.Hex

namespace Emplace.Toml

inductive Item
  | text (s : String)
  | integer (n : Int)
  | texts (items : List String)
  deriving DecidableEq, Repr, Inhabited

abbrev Section := String × List (String × Item)

namespace Printer

def isCode (c : Char) : Bool := (c < ' ' && c != '\t' && c != '\n') || c == '\x7f'

def longestRun (c : Char) (cs : List Char) : Nat :=
  (cs.foldl (fun (best, current) d => if d = c then (max best (current + 1), current + 1) else (best, 0))
    (0, 0)).1

inductive Style
  | basic
  | literal
  | longBasic
  | longLiteral
  deriving DecidableEq, Repr, Inhabited

def styleOf (cs : List Char) : Style :=
  let codes := cs.any isCode
  let backslash := cs.contains '\\'
  let newline := cs.contains '\n'
  let double := longestRun '"' cs
  let single := longestRun '\'' cs
  if !codes && !backslash && double == 0 && !newline then .basic
  else if !codes && single == 0 && !newline then .literal
  else if !codes && !backslash && double ≤ 2 then .longBasic
  else if !codes && single ≤ 2 then .longLiteral
  else if newline then .longBasic
  else .basic

def codeEscape (c : Char) : List Char :=
  let digits := (Nat.toDigits 16 c.toNat).map Char.toUpper
  ['\\', 'u'] ++ List.replicate (4 - digits.length) '0' ++ digits

def escaped (newlines : Bool) (c : Char) : List Char :=
  if c = '\x08' then ['\\', 'b']
  else if c = '\t' then ['\\', 't']
  else if c = '\n' then (if newlines then ['\n'] else ['\\', 'n'])
  else if c = '\x0c' then ['\\', 'f']
  else if c = '\r' then ['\\', 'r']
  else if c = '\\' then ['\\', '\\']
  else if isCode c then codeEscape c
  else [c]

/-- The inside of a text between double quotes: of each run of quotes the first `allowed` stand for
themselves, then one is escaped, and so on. -/
def basicBody (newlines : Bool) (allowed : Nat) : Nat → List Char → List Char
  | _, [] => []
  | run, c :: cs =>
    if c = '"' then
      if run < allowed then '"' :: basicBody newlines allowed (run + 1) cs
      else '\\' :: '"' :: basicBody newlines allowed 0 cs
    else escaped newlines c ++ basicBody newlines allowed 0 cs

def leadingNewline (cs : List Char) : List Char := if cs.contains '\n' then ['\n'] else []

def text (s : String) : List Char :=
  let cs := s.toList
  match styleOf cs with
  | .basic => ['"'] ++ basicBody false 0 0 cs ++ ['"']
  | .literal => ['\''] ++ cs ++ ['\'']
  | .longBasic => List.replicate 3 '"' ++ leadingNewline cs ++ basicBody true 2 0 cs ++ List.replicate 3 '"'
  | .longLiteral => List.replicate 3 '\'' ++ leadingNewline cs ++ cs ++ List.replicate 3 '\''

def texts : List String → List Char
  | [] => ['[', ']']
  | [s] => ['['] ++ text s ++ [']']
  | many => ['[', '\n'] ++ many.flatMap (fun s => List.replicate 4 ' ' ++ text s ++ [',', '\n']) ++ [']']

def item : Item → List Char
  | .text s => text s
  | .integer n => (toString n).toList
  | .texts items => texts items

def entry (e : String × Item) : List Char := e.1.toList ++ [' ', '=', ' '] ++ item e.2 ++ ['\n']

def sectionLines (s : Section) : List Char :=
  ['['] ++ s.1.toList ++ [']', '\n'] ++ s.2.flatMap entry

def document : List Section → List Char
  | [] => []
  | [s] => sectionLines s
  | s :: rest => sectionLines s ++ ['\n'] ++ document rest

end Printer

end Emplace.Toml
