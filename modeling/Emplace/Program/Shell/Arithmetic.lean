import Emplace.Program.Shell.Word
import Emplace.Text.Hex
import Emplace.Text.Numeral

namespace Emplace.Program.Shell.Arithmetic

abbrev Variables := List (String × String)

inductive Token
  | number (n : Int)
  | name (s : String)
  | operator (s : String)
  | other (c : Char)
  deriving DecidableEq, Repr, Inhabited

inductive Fault
  | primary
  | ending
  | closing
  | colon
  | divisionByZero
  | value (text : String)
  | overflow
  deriving DecidableEq, Repr, Inhabited

def Fault.text : Fault → String
  | .primary => "expecting primary"
  | .ending => "expecting EOF"
  | .closing => "expecting ')'"
  | .colon => "expecting ':'"
  | .divisionByZero => "division by zero"
  | .value text => s!"Illegal number: {text}"
  | .overflow => "overflow"

def infixes : List (String × Nat) :=
  [("==", 6), ("!=", 6), ("<=", 7), (">=", 7), ("<<", 8), (">>", 8), ("|", 3), ("^", 4), ("&", 5), ("<", 7), (">", 7),
    ("+", 9), ("-", 9), ("*", 10), ("/", 10), ("%", 10)]

def assignments : List String := ["<<=", ">>=", "+=", "-=", "*=", "/=", "%=", "&=", "|=", "^="]

def operators : List String :=
  assignments ++ ["||", "&&"] ++ (infixes.map Prod.fst).filter (·.length = 2) ++
    ["=", "!", "~", "?", ":", "(", ")"] ++ (infixes.map Prod.fst).filter (·.length = 1)

def greatest : Int := 0x7fffffffffffffff

def least : Int := -0x8000000000000000

def digitsIn (base : Nat) (cs : List Char) : Int × List Char :=
  let isDigit (c : Char) : Bool := ((Text.hexValue? c).map fun d => decide (d < base)).getD false
  ((cs.takeWhile isDigit).foldl (fun n c => base * n + (Text.hexValue? c).getD 0) 0, cs.dropWhile isDigit)

def number (cs : List Char) : Int × List Char :=
  match cs with
  | '0' :: 'x' :: rest | '0' :: 'X' :: rest => digitsIn 16 rest
  | '0' :: rest => digitsIn 8 rest
  | cs => digitsIn 10 cs

def tokens : (bound : Nat) → List Char → List Token
  | 0, _ => []
  | _, [] => []
  | bound + 1, c :: rest =>
    if Text.isBlank c then tokens bound rest
    else if c.isDigit then
      let (n, rest) := number (c :: rest)
      .number (min greatest n) :: tokens bound rest
    else if isNameChar c then
      let name := String.ofList ((c :: rest).takeWhile isNameChar)
      .name name :: tokens bound ((c :: rest).dropWhile isNameChar)
    else
      match operators.findSome? fun s => (Text.stripStart? s.toList (c :: rest)).map (s, ·) with
      | some (s, rest) => .operator s :: tokens bound rest
      | none => .other c :: tokens bound rest

def ofBool (b : Bool) : Int := if b then 1 else 0

def apply (operator : String) (a b : Int) : Except Fault Int :=
  match operator with
  | "==" => .ok (ofBool (a = b))
  | "!=" => .ok (ofBool (a ≠ b))
  | "<=" => .ok (ofBool (a ≤ b))
  | ">=" => .ok (ofBool (b ≤ a))
  | "<" => .ok (ofBool (a < b))
  | ">" => .ok (ofBool (b < a))
  | "<<" => .ok (Int64.ofInt a <<< Int64.ofInt b).toInt
  | ">>" => .ok (Int64.ofInt a >>> Int64.ofInt b).toInt
  | "|" => .ok (Int64.ofInt a ||| Int64.ofInt b).toInt
  | "^" => .ok (Int64.ofInt a ^^^ Int64.ofInt b).toInt
  | "&" => .ok (Int64.ofInt a &&& Int64.ofInt b).toInt
  | "+" => .ok (Int64.ofInt (a + b)).toInt
  | "-" => .ok (Int64.ofInt (a - b)).toInt
  | "*" => .ok (Int64.ofInt (a * b)).toInt
  | _ =>
    if b = 0 then .error .divisionByZero
    else if a = least && b = -1 then .error .overflow
    else .ok (if operator = "/" then Int.tdiv a b else Int.tmod a b)

def valueOf (bindings : Variables) (name : String) : Except Fault Int :=
  let text := (bindings.lookup name).getD ""
  let read (cs : List Char) : Except Fault Int :=
    let (n, rest) := number cs
    let isWhole := rest.length < cs.length && (rest.dropWhile Text.isBlank).isEmpty
    if cs.isEmpty || isWhole && n ≤ greatest then .ok n else .error (.value text)
  match text.toList.dropWhile Text.isBlank with
  | '-' :: digits => (read digits).map (- ·)
  | '+' :: digits => read digits
  | digits => read digits

abbrev Outcome := Except Fault (Int × Variables × List Token)

mutual

def assignment (skipped : Bool) : (bound : Nat) → Variables → List Token → Outcome
  | 0, _, _ => .error .primary
  | bound + 1, vs, ts =>
    match ts with
    | .name name :: .operator s :: rest =>
      if s = "=" || assignments.contains s then do
        let (n, vs, rest) ← assignment skipped bound vs rest
        if skipped then return (n, vs, rest)
        let n ← if s = "=" then .ok n else apply (String.ofList s.toList.dropLast) (← valueOf vs name) n
        return (n, (name, toString n) :: vs, rest)
      else choice skipped bound vs ts
    | _ => choice skipped bound vs ts

def choice (skipped : Bool) : (bound : Nat) → Variables → List Token → Outcome
  | 0, _, _ => .error .primary
  | bound + 1, vs, ts => do
    let (a, vs, rest) ← either skipped bound vs ts
    match rest with
    | .operator "?" :: rest =>
      let (yes, vs, rest) ← assignment (skipped || a = 0) bound vs rest
      match rest with
      | .operator ":" :: rest =>
        let (no, vs, rest) ← choice (skipped || a ≠ 0) bound vs rest
        return (if a ≠ 0 then yes else no, vs, rest)
      | _ => .error .colon
    | _ => return (a, vs, rest)

def either (skipped : Bool) : (bound : Nat) → Variables → List Token → Outcome
  | 0, _, _ => .error .primary
  | bound + 1, vs, ts => do
    let (a, vs, rest) ← both skipped bound vs ts
    match rest with
    | .operator "||" :: rest =>
      let (b, vs, rest) ← either (skipped || a ≠ 0) bound vs rest
      return (ofBool (a ≠ 0 || b ≠ 0), vs, rest)
    | _ => return (a, vs, rest)

def both (skipped : Bool) : (bound : Nat) → Variables → List Token → Outcome
  | 0, _, _ => .error .primary
  | bound + 1, vs, ts => do
    let (a, vs, rest) ← binary skipped bound 0 vs ts
    match rest with
    | .operator "&&" :: rest =>
      let (b, vs, rest) ← both (skipped || a = 0) bound vs rest
      return (ofBool (a ≠ 0 && b ≠ 0), vs, rest)
    | _ => return (a, vs, rest)

def binary (skipped : Bool) : (bound level : Nat) → Variables → List Token → Outcome
  | 0, _, _, _ => .error .primary
  | bound + 1, level, vs, ts => do
    let (a, vs, ts) ← unary skipped bound vs ts
    onward skipped bound level a vs ts

def onward (skipped : Bool) : (bound level : Nat) → Int → Variables → List Token → Outcome
  | 0, _, _, _, _ => .error .primary
  | bound + 1, level, a, vs, ts =>
    match ts with
    | .operator s :: rest =>
      match infixes.lookup s with
      | some tightness =>
        if level ≤ tightness then do
          let (b, vs, rest) ← binary skipped bound (tightness + 1) vs rest
          let n ← if skipped then .ok b else apply s a b
          onward skipped bound level n vs rest
        else .ok (a, vs, ts)
      | none => .ok (a, vs, ts)
    | _ => .ok (a, vs, ts)

def unary (skipped : Bool) : (bound : Nat) → Variables → List Token → Outcome
  | 0, _, _ => .error .primary
  | bound + 1, vs, ts =>
    let wrapped (n : Int) : Int := (Int64.ofInt n).toInt
    match ts with
    | .number n :: rest => .ok (n, vs, rest)
    | .operator "-" :: rest => (unary skipped bound vs rest).map fun (n, r) => (wrapped (-n), r)
    | .operator "+" :: rest => unary skipped bound vs rest
    | .operator "!" :: rest => (unary skipped bound vs rest).map fun (n, r) => (ofBool (n = 0), r)
    | .operator "~" :: rest => (unary skipped bound vs rest).map fun (n, r) => (-n - 1, r)
    | .operator "(" :: rest => do
      let (n, vs, rest) ← assignment skipped bound vs rest
      match rest with
      | .operator ")" :: rest => return (n, vs, rest)
      | _ => .error .closing
    | .name name :: rest => (if skipped then .ok 0 else valueOf vs name).map fun n => (n, vs, rest)
    | _ => .error .primary

end

def evaluate (vs : Variables) (expression : List Char) : Except Fault (Int × Variables) := do
  let ts := tokens (expression.length + 1) expression
  let (n, vs, rest) ← assignment false (8 * (ts.length + 1)) vs ts
  if rest.isEmpty then return (n, vs) else .error .ending

end Emplace.Program.Shell.Arithmetic
