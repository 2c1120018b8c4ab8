import Emplace.Program.Question

namespace Emplace.Program.Shell.Condition

open Files (Disk)

inductive Fault
  | number (text : String)
  | operand (operator : String)
  | bracket (last : String)
  | following (last next : String)
  deriving DecidableEq, Repr, Inhabited

def Fault.text : Fault → String
  | .number text => s!"Illegal number: {text}"
  | .operand operator => s!"{operator}: argument expected"
  | .bracket _ => "closing paren expected"
  | .following last _ => s!"{last}: unexpected operator"

structure Reading where
  holds : Bool
  last : String
  rest : List String
  deriving DecidableEq, Repr, Inhabited

abbrev Outcome := Except Fault Reading

def number (text : String) : Except Fault Int :=
  match wholeOperand? text with
  | some n => if -0x8000000000000000 ≤ n ∧ n < 0x8000000000000000 then .ok n else .error (.number text)
  | none => .error (.number text)

def comparison? (disk : Disk) (operator : String) : Option (String → String → Except Fault Bool) :=
  match operator with
  | "=" => some fun a b => .ok (a = b)
  | "!=" => some fun a b => .ok (a ≠ b)
  | "<" => some fun a b => .ok (a < b)
  | ">" => some fun a b => .ok (b < a)
  | "-ef" => some fun a b => .ok (sameFile disk a b)
  | "-nt" | "-ot" => some fun _ _ => .ok false
  | _ => (comparisons.lookup operator).map fun holds a b => do return holds (← number a) (← number b)

def question? (disk : Disk) (operator : String) : Option (String → Except Fault Bool) :=
  match operator.toList with
  | ['-', 'n'] => some fun text => .ok (text ≠ "")
  | ['-', 'z'] => some fun text => .ok (text = "")
  | ['-', 't'] => some fun text => (number text).map fun _ => false
  | ['-', letter] => (fileQuestion? disk letter).map fun asks text => .ok (asks text)
  | _ => none

def isOperator (disk : Disk) (arg : String) (rest : List String) : Bool :=
  let isText := match rest with
    | [] => true
    | [_] => false
    | next :: _ => (comparison? disk next).isSome
  (question? disk arg).isSome && !isText

def compared (disk : Disk) (arg : String) (rest : List String) : Outcome :=
  match rest with
  | [] => .ok ⟨arg ≠ "", arg, []⟩
  | operator :: rest =>
    match comparison? disk operator, rest with
    | some compare, b :: rest => (compare arg b).map (⟨·, b, rest⟩)
    | some _, [] => .error (.operand operator)
    | none, _ => .ok ⟨arg ≠ "", arg, operator :: rest⟩

mutual

def either (disk : Disk) : (bound : Nat) → List String → Outcome
  | 0, args => .ok ⟨false, "", args⟩
  | bound + 1, args => do
    let a ← both disk bound args
    match a.rest with
    | "-o" :: rest =>
      let b ← either disk bound rest
      return { b with holds := a.holds || b.holds }
    | _ => return a

def both (disk : Disk) : (bound : Nat) → List String → Outcome
  | 0, args => .ok ⟨false, "", args⟩
  | bound + 1, args => do
    let a ← single disk bound args
    match a.rest with
    | "-a" :: rest =>
      let b ← both disk bound rest
      return { b with holds := a.holds && b.holds }
    | _ => return a

def single (disk : Disk) : (bound : Nat) → List String → Outcome
  | 0, args => .ok ⟨false, "", args⟩
  | bound + 1, args =>
    match args with
    | [] => .ok ⟨false, "", []⟩
    | arg :: rest =>
      if arg = "!" then do
        let a ← single disk bound rest
        return { a with holds := !a.holds }
      else if arg = "(" && !rest.isEmpty then
        if rest.head? = some ")" then .ok ⟨false, ")", rest.drop 1⟩
        else do
          let a ← either disk bound rest
          match a.rest with
          | ")" :: rest => return { a with last := ")", rest := rest }
          | _ => .error (.bracket a.last)
      else if isOperator disk arg rest then
        match question? disk arg, rest with
        | some asks, operand :: rest => (asks operand).map (⟨·, operand, rest⟩)
        | _, _ => .error (.operand arg)
      else compared disk arg rest

end

/-- The condition of all arguments. Three arguments with a comparison in the middle are compared whatever they
are. -/
def whole (disk : Disk) (args : List String) : Outcome :=
  match args with
  | [a, operator, b] =>
    if (comparison? disk operator).isSome then compared disk a [operator, b]
    else if a = "(" && b = ")" then either disk 8 [operator]
    else either disk (4 * (args.length + 1)) args
  | ["!", a, operator, b] =>
    if (comparison? disk operator).isSome then
      (compared disk a [operator, b]).map fun r => { r with holds := !r.holds }
    else either disk (4 * (args.length + 1)) args
  | _ => either disk (4 * (args.length + 1)) args

def holds (disk : Disk) (args : List String) : Except Fault Bool :=
  if args.isEmpty then .ok false
  else do
    let r ← whole disk args
    match r.rest with
    | [] => return r.holds
    | next :: _ => .error (.following r.last next)

end Emplace.Program.Shell.Condition
