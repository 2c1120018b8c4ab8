import Emplace.Program.Question
import Emplace.Program.Utility.Argument

namespace Emplace.Program.Utility

namespace Test

open Files (Disk)

structure Arguments where
  rest : List String
  last : String
  deriving DecidableEq, Repr, Inhabited

abbrev Outcome := Except String (Bool × Arguments)

def Arguments.behind (a : Arguments) (count : Nat) : Arguments := { a with rest := a.rest.drop count }

def Arguments.short (a : Arguments) : Outcome := .error ("missing argument after " ++ inQuotes a.last)

def isBinary (text : String) : Bool :=
  ["=", "==", "!=", "-nt", "-ot", "-ef"].contains text || (comparisons.lookup text).isSome

def number (text : String) : Except String Int :=
  match wholeOperand? text with
  | some n => .ok n
  | none => .error ("invalid integer " ++ inQuotes text)

def compare (disk : Disk) (a operator b : String) : Except String Bool :=
  let stands (path : String) : Bool := disk.pathExists (Raw.toText path)
  match operator with
  | "=" | "==" => .ok (a = b)
  | "!=" => .ok (a ≠ b)
  | "-nt" => .ok (stands a && !stands b)
  | "-ot" => .ok (stands b && !stands a)
  | "-ef" => .ok (sameFile disk a b)
  | _ => do
    let a ← number a
    let b ← number b
    return ((comparisons.lookup operator).map fun holds => holds a b).getD false

def binary (disk : Disk) (a : Arguments) : Outcome :=
  let (first, rest) := match a.rest with
    | "-l" :: text :: operator :: rest => (toString text.length, operator :: rest)
    | text :: rest => (text, rest)
    | [] => ("", [])
  match rest with
  | operator :: "-l" :: text :: rest =>
    (compare disk first operator (toString text.length)).map fun holds => (holds, { a with rest := rest })
  | operator :: second :: rest =>
    (compare disk first operator second).map fun holds => (holds, { a with rest := rest })
  | _ => a.short

def unary (disk : Disk) (a : Arguments) : Outcome :=
  match a.rest with
  | operator :: rest =>
    let ask (answer : String → Except String Bool) : Outcome :=
      match rest with
      | [] => a.short
      | text :: rest => (answer text).map fun holds => (holds, { a with rest := rest })
    match operator.toList with
    | ['-', 'n'] => ask fun text => .ok (text ≠ "")
    | ['-', 'z'] => ask fun text => .ok (text = "")
    | ['-', 't'] => ask fun text => (number text).map fun _ => false
    | ['-', 'N'] => ask fun _ => .ok false
    | ['-', letter] =>
      match fileQuestion? disk (if letter == 'a' then 'e' else letter) with
      | some asks => ask fun text => .ok (asks text)
      | none => .error (inQuotes operator ++ ": unary operator expected")
    | _ => .error (inQuotes operator ++ ": unary operator expected")
  | [] => a.short

def single (a : Arguments) : Outcome :=
  match a.rest with
  | text :: _ => .ok (text ≠ "", a.behind 1)
  | [] => a.short

def isUnary (text : String) : Bool := text.length = 2 && text.toList.head? == some '-'

def opposite (o : Outcome) : Outcome := o.map fun (holds, a) => (!holds, a)

def two (disk : Disk) (a : Arguments) : Outcome :=
  match a.rest with
  | "!" :: _ => opposite (single (a.behind 1))
  | text :: _ => if isUnary text then unary disk a else a.short
  | [] => a.short

mutual

def counted (disk : Disk) : (bound count : Nat) → Arguments → Outcome
  | 0, _, a => a.short
  | bound + 1, count, a =>
    match count, a.rest with
    | 1, _ => single a
    | 2, _ => two disk a
    | 3, first :: second :: third :: _ =>
      if isBinary second then binary disk a
      else if first = "!" then opposite (two disk (a.behind 1))
      else if first = "(" && third = ")" then
        (single (a.behind 1)).map fun (holds, a) => (holds, a.behind 1)
      else if second = "-a" || second = "-o" then either disk bound a
      else .error (inQuotes second ++ ": binary operator expected")
    | 4, first :: _ :: _ :: fourth :: _ =>
      if first = "!" then opposite (counted disk bound 3 (a.behind 1))
      else if first = "(" && fourth = ")" then
        (two disk (a.behind 1)).map fun (holds, a) => (holds, a.behind 1)
      else either disk bound a
    | _, _ => either disk bound a

def either (disk : Disk) : (bound : Nat) → Arguments → Outcome
  | 0, a => a.short
  | bound + 1, a => do
    let (first, a) ← both disk bound a
    match a.rest with
    | "-o" :: _ =>
      let (second, a) ← either disk bound (a.behind 1)
      return (first || second, a)
    | _ => return (first, a)

def both (disk : Disk) : (bound : Nat) → Arguments → Outcome
  | 0, a => a.short
  | bound + 1, a => do
    let (first, a) ← term disk bound a
    match a.rest with
    | "-a" :: _ =>
      let (second, a) ← both disk bound (a.behind 1)
      return (first && second, a)
    | _ => return (first, a)

def term (disk : Disk) : (bound : Nat) → Arguments → Outcome
  | 0, a => a.short
  | bound + 1, a =>
    match a.rest with
    | [] => a.short
    | "!" :: rest => if rest.isEmpty then a.short else opposite (term disk bound (a.behind 1))
    | "(" :: rest =>
      if rest.isEmpty then a.short
      else do
        let inner := 1 + (rest.drop 1).findIdx (· = ")")
        let (holds, a) ← counted disk bound (if inner ≤ 4 then inner else rest.length) (a.behind 1)
        match a.rest with
        | ")" :: _ => return (holds, a.behind 1)
        | [] => .error (inQuotes ")" ++ " expected")
        | other :: _ => .error (inQuotes ")" ++ " expected, found " ++ inQuotes other)
    | "-l" :: _ :: operator :: _ :: _ => if isBinary operator then binary disk a else unary disk a
    | text :: operator :: _ :: _ =>
      if isBinary operator then binary disk a else if isUnary text then unary disk a else single a
    | text :: _ => if isUnary text then unary disk a else single a

end

def holds (disk : Disk) (args : List String) : Except String Bool :=
  if args.isEmpty then .ok false
  else do
    let (holds, a) ← counted disk (4 * (args.length + 1)) args.length ⟨args, args.getLastD ""⟩
    match a.rest with
    | [] => return holds
    | next :: _ => .error ("extra argument " ++ inQuotes next)

end Test

def testAs (called : String) : Utility := fun found args =>
  match Test.holds found.disk args with
  | .ok true => .silent 0
  | .ok false => .silent 1
  | .error fault => .complained s!"{called}: {fault}" 2

def bracket : Utility := fun found args =>
  if args.getLast? = some "]" then testAs "[" found args.dropLast
  else .complained ("[: missing " ++ inQuotes "]") 2

end Emplace.Program.Utility
