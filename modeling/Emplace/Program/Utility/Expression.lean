import Emplace.Program.Regex
import Emplace.Program.Utility.Argument

namespace Emplace.Program.Utility

namespace Expression

inductive Value
  | number (n : Int)
  | text (s : String)
  deriving DecidableEq, Repr, Inhabited

inductive Fault
  | missing (last : String)
  | unexpected (arg : String)
  | unexpectedClosing
  | closingAfter (last : String)
  | closingInstead (arg : String)
  | notInteger
  | divisionByZero
  | regex (f : Regex.Fault)
  deriving DecidableEq, Repr, Inhabited

def Fault.message : Fault → String
  | .missing last => "syntax error: missing argument after " ++ inQuotes last
  | .unexpected arg => "syntax error: unexpected argument " ++ inQuotes arg
  | .unexpectedClosing => "syntax error: unexpected ')'"
  | .closingAfter last => "syntax error: expecting ')' after " ++ inQuotes last
  | .closingInstead arg => "syntax error: expecting ')' instead of " ++ inQuotes arg
  | .notInteger => "non-integer argument"
  | .divisionByZero => "division by zero"
  | .regex f => f.text

namespace Value

def shown : Value → String
  | .number n => toString n
  | .text s => s

def integer? (s : String) : Option Int :=
  match s.toList with
  | '-' :: digits => (Text.digits? digits).map fun n => -(n : Int)
  | digits => (Text.digits? digits).map fun n => (n : Int)

def number? : Value → Option Int
  | .number n => some n
  | .text s => integer? s

def isNull : Value → Bool
  | .number n => n = 0
  | .text s =>
    match s.toList with
    | '-' :: c :: rest => (c :: rest).all (· == '0')
    | cs => cs.all (· == '0')

end Value

def charactersOf (v : Value) : List Char := Raw.characters (Raw.bytes v.shown)

def matched (text pattern : String) : Except Fault Value :=
  match Regex.ofText ⟨false, false⟩ (Raw.characters (Raw.bytes pattern)) with
  | .error f => .error (.regex f)
  | .ok r =>
    let cs := Raw.characters (Raw.bytes text)
    match r.longest? ⟨false, false⟩ (.startOf cs), r.groupCount with
    | some last, 0 => .ok (.number last.index)
    | some last, _ => .ok (.text (Raw.ofBytes (Raw.bytesOfCharacters (Regex.keptText cs 0 last 1))))
    | none, 0 => .ok (.number 0)
    | none, _ => .ok (.text "")

def compared (operator : String) (a b : Value) : Bool :=
  let order := match Value.integer? a.shown, Value.integer? b.shown with
    | some m, some n => compare m n
    | _, _ => compare a.shown b.shown
  match operator with
  | "<" => order == .lt
  | "<=" => order != .gt
  | "=" | "==" => order == .eq
  | "!=" => order != .eq
  | ">=" => order != .lt
  | _ => order == .gt

def computed (operator : String) (a b : Value) : Except Fault Value :=
  match a.number?, b.number? with
  | some m, some n =>
    if (operator = "/" || operator = "%") && n = 0 then .error .divisionByZero
    else
      .ok <| .number <| match operator with
        | "+" => m + n
        | "-" => m - n
        | "*" => m * n
        | "/" => Int.tdiv m n
        | _ => Int.tmod m n
  | _, _ => .error .notInteger

def levels : List (List String) :=
  [["|"], ["&"], ["<", "<=", "=", "==", "!=", ">=", ">"], ["+", "-"], ["*", "/", "%"], [":"]]

def applied (operator : String) (a b : Value) : Except Fault Value :=
  match operator with
  | "|" => .ok (if !a.isNull then a else if b.isNull then .number 0 else b)
  | "&" => .ok (if a.isNull || b.isNull then .number 0 else a)
  | ":" => matched a.shown b.shown
  | "+" | "-" | "*" | "/" | "%" => computed operator a b
  | _ => .ok (.number (if compared operator a b then 1 else 0))

abbrev Outcome := Except Fault (Value × String × List String)

mutual

def level (counts : Bool) : (bound : Nat) → List (List String) → (last : String) → List String → Outcome
  | 0, _, last, _ => .error (.missing last)
  | bound + 1, [], last, args => keyword counts bound last args
  | bound + 1, operators :: tighter, last, args => do
    let (a, last, rest) ← level counts bound tighter last args
    onward counts bound operators tighter a last rest

def onward (counts : Bool) :
    (bound : Nat) → List String → List (List String) → Value → (last : String) → List String → Outcome
  | 0, _, _, _, last, _ => .error (.missing last)
  | bound + 1, operators, tighter, a, last, args =>
    match args with
    | operator :: rest =>
      if operators.contains operator then do
        let decided := operator = "|" && !a.isNull || operator = "&" && a.isNull
        let (b, last, rest) ← level (counts && !decided) bound tighter operator rest
        let value ← if counts then applied operator a b else .ok a
        onward counts bound operators tighter value last rest
      else .ok (a, last, args)
    | [] => .ok (a, last, [])

def keyword (counts : Bool) : (bound : Nat) → (last : String) → List String → Outcome
  | 0, last, _ => .error (.missing last)
  | bound + 1, last, args => do
    match args with
    | "+" :: rest =>
      match rest with
      | text :: rest => return (.text text, text, rest)
      | [] => throw (.missing "+")
    | "length" :: rest =>
      let (a, last, rest) ← keyword counts bound "length" rest
      return (.number (charactersOf a).length, last, rest)
    | "match" :: rest =>
      let (a, last, rest) ← keyword counts bound "match" rest
      let (b, last, rest) ← keyword counts bound last rest
      return (← if counts then matched a.shown b.shown else .ok a, last, rest)
    | "index" :: rest =>
      let (a, last, rest) ← keyword counts bound "index" rest
      let (b, last, rest) ← keyword counts bound last rest
      let place := (charactersOf a).findIdx? (charactersOf b).contains
      return (.number ((place.map fun i => (i : Int) + 1).getD 0), last, rest)
    | "substr" :: rest =>
      let (a, last, rest) ← keyword counts bound "substr" rest
      let (i, last, rest) ← keyword counts bound last rest
      let (n, last, rest) ← keyword counts bound last rest
      let part := match i.number?, n.number? with
        | some i, some n =>
          if i ≤ 0 || n ≤ 0 then [] else ((charactersOf a).drop (i.toNat - 1)).take n.toNat
        | _, _ => []
      return (.text (Raw.ofBytes (Raw.bytesOfCharacters part)), last, rest)
    | "(" :: rest =>
      let (a, last, rest) ← level counts bound levels "(" rest
      match rest with
      | ")" :: rest => return (a, ")", rest)
      | [] => throw (.closingAfter last)
      | other :: _ => throw (.closingInstead other)
    | ")" :: _ => throw .unexpectedClosing
    | text :: rest => return (.text text, text, rest)
    | [] => throw (.missing last)

end

def value (args : List String) : Except Fault Value := do
  let (a, _, rest) ← level true (16 * (args.length + 1)) levels "" args
  match rest with
  | [] => return a
  | arg :: _ => throw (.unexpected arg)

end Expression

def expr : Utility := fun _ args =>
  match if args.head? = some "--" then args.drop 1 else args with
  | [] => .puzzled "expr" "missing operand" 2
  | args =>
    match Expression.value args with
    | .ok v => { Finished.printedText (v.shown ++ "\n") with ending := .exited (if v.isNull then 1 else 0) }
    | .error fault => .complained s!"expr: {fault.message}" 2

end Emplace.Program.Utility
