import Emplace.Program.Format
import Emplace.Program.Shell.Condition
import Emplace.Program.Shell.Expansion

namespace Emplace.Program.Shell

abbrev Builtin := State → List String → State

def greatest : Nat := 0x7FFFFFFF

def natural? (arg : String) : Option Nat :=
  (wholeOperand? arg).bind fun n => if 0 ≤ n && n ≤ greatest then some n.toNat else none

def withNatural (s : State) (args : List String) (standard : Nat) (act : Nat → State) : State :=
  match args with
  | [] => act standard
  | arg :: _ =>
    match natural? arg with
    | some n => act n
    | none => s.refuse s!"Illegal number: {arg}" 2

structure Letters where
  given : List (Char × String)
  rest : Except String (List String)

namespace Letters

def withFirst (l : Letters) (letter : Char) (value : String) : Letters := { l with given := (letter, value) :: l.given }

def has (l : Letters) (letter : Char) : Bool := l.given.any fun (c, _) => c == letter

def read (known valued : List Char) : (bound : Nat) → (letters : List Char) → List String → Letters
  | 0, _, args => ⟨[], .ok args⟩
  | bound + 1, [], args =>
    match args with
    | [] => ⟨[], .ok []⟩
    | arg :: rest =>
      match arg.toList with
      | ['-', '-'] => ⟨[], .ok rest⟩
      | '-' :: c :: letters => read known valued bound (c :: letters) rest
      | _ => ⟨[], .ok (arg :: rest)⟩
  | bound + 1, c :: letters, args =>
    if valued.contains c then
      match if letters.isEmpty then args else String.ofList letters :: args with
      | [] => ⟨[], .error s!"No arg for -{c} option"⟩
      | value :: rest => (read known valued bound [] rest).withFirst c value
    else if known.contains c then (read known valued bound letters args).withFirst c ""
    else ⟨[], .error s!"Illegal option -{c}"⟩

def ofArguments (known valued : List Char) (args : List String) : Letters :=
  read known valued ((String.join args).length + args.length + 1) [] args

end Letters

def withLetters (s : State) (known valued : List Char) (args : List String)
    (act : Letters → List String → State) : State :=
  let letters := Letters.ofArguments known valued args
  match letters.rest with
  | .ok rest => act letters rest
  | .error message => s.refuse message 2

def singleQuotedFrom : (bound : Nat) → List Char → List Char
  | 0, _ => []
  | bound + 1, cs =>
    let (plain, rest) := cs.span (· != '\x27')
    let (quotes, rest) := rest.span (· == '\x27')
    let front := '\x27' :: plain ++ ['\x27'] ++ if quotes.isEmpty then [] else '"' :: quotes ++ ['"']
    if rest.isEmpty then front else front ++ singleQuotedFrom bound rest

def singleQuoted (text : String) : String := String.ofList (singleQuotedFrom (text.length + 1) text.toList)

def leftAligned (width : Nat) (text : String) : String :=
  text ++ String.ofList (List.replicate (width - text.length) ' ')

def echoCommand : Builtin := fun s args =>
  let (args, lineEnd) : List String × Bytes := match args with
    | "-n" :: rest => (rest, [])
    | _ => (args, [10])
  let (bytes, stop) := Dialect.shell.argumentEscapes.bytes (" ".intercalate args)
  (s.print (if stop.isSome then bytes else bytes ++ lineEnd)).succeed

def printfCommand : Builtin := fun s args =>
  withLetters s [] [] args fun _ args =>
    match args with
    | [] => s.refuse "usage: printf format [arg ...]" 2
    | format :: args =>
      let p := formatted .shell format args
      let s := p.faults.foldl (fun s f => s.say (f.text .shell)) s
      (s.print p.printed).withStatus (p.status .shell)

def testCommand : Builtin := fun s args =>
  match Condition.holds s.disk args with
  | .ok holds => s.withStatus (if holds then 0 else 1)
  | .error fault => s.refuse fault.text 2

def bracketCommand : Builtin := fun s args =>
  if args.getLast? = some "]" then testCommand s args.dropLast else s.refuse "missing ]" 2

def exitCommand : Builtin := fun s args =>
  withNatural s args s.status fun n => { s with status := n, jump := some .exit }

def returnCommand : Builtin := fun s args =>
  withNatural s args s.status fun n => { s with status := n, jump := some .returned }

def leaveCommand (jump : Nat → Jump) : Builtin := fun s args =>
  let leave (n : Nat) : State :=
    if s.loops = 0 then s.succeed else { s with status := 0, jump := some (jump (min n s.loops)) }
  match args.head? with
  | some arg =>
    match (natural? arg).filter (0 < ·) with
    | some n => leave n
    | none => s.refuse s!"Illegal number: {arg}" 2
  | none => leave 1

end Emplace.Program.Shell
