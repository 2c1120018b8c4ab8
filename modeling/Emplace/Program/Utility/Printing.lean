import Emplace.Program.Format
import Emplace.Program.Utility.Input

namespace Emplace.Program.Utility

def isEchoOption (arg : String) : Bool :=
  match arg.toList with
  | '-' :: letters => !letters.isEmpty && letters.all ['n', 'e', 'E'].contains
  | _ => false

def echo : Utility := fun _ args =>
  let options := (args.takeWhile isEchoOption).flatMap fun arg => arg.toList.drop 1
  let text := " ".intercalate (args.dropWhile isEchoOption)
  let lineEnd : Bytes := if options.contains 'n' then [] else [10]
  if (options.filter (· != 'n')).getLast? = some 'e' then
    let (bytes, stop) := Escapes.bytes ⟨true, true, false, true, false⟩ text
    .printed (if stop.isSome then bytes else bytes ++ lineEnd)
  else .printed (Raw.bytes text ++ lineEnd)

def printf : Utility := fun _ args =>
  match if args.head? = some "--" then args.drop 1 else args with
  | [] => .puzzled "printf" "missing operand"
  | format :: args =>
    let p := formatted .utility format args
    let complaints := p.faults.map fun f => "printf: " ++ f.text .utility ++ "\n"
    { stdout := p.printed, stderr := Raw.bytes (String.join complaints), ending := .exited (p.status .utility) }

/-- How many lines of an endless output are printed: more than a reader takes that stops. -/
def endless : Nat := 300000

def yes : Utility := fun _ args =>
  Grammar.after { name := "yes", known := [], mixed := false } args fun _ args =>
    let line := Raw.bytes ((if args.isEmpty then "y" else " ".intercalate args) ++ "\n")
    .printed (List.replicate endless line).flatten

structure Decimal where
  units : Int
  places : Nat
  length : Nat
  deriving DecidableEq, Repr, Inhabited

namespace Decimal

def ofText? (text : String) : Option Decimal :=
  let body := text.toList.dropWhile fun c => isSpaceChar c || c == '+'
  let (negative, digits) := match body with
    | '-' :: digits => (true, digits)
    | digits => (false, digits)
  let (mantissa, power) := digits.span fun c => c != 'e' && c != 'E'
  let (whole, rest) := mantissa.span Char.isDigit
  let places := rest.drop 1
  let exponent? : Option Int := match power.drop 1 with
    | [] => if power.isEmpty then some 0 else none
    | '-' :: ds => (Text.digits? ds).map fun n => -(n : Int)
    | '+' :: ds | ds => (Text.digits? ds).map fun n => (n : Int)
  if whole.isEmpty && places.isEmpty || (rest.head?.map (· != '.')).getD false || !places.all Char.isDigit then none
  else
    exponent?.bind fun exponent =>
      if 1000 < exponent.natAbs then none
      else
        let size := Text.digitsValue (whole ++ places) * Nat.pow 10 (exponent - places.length).toNat
        some ⟨if negative then -(size : Int) else size, (places.length - exponent).toNat, body.length⟩

def scaled (d : Decimal) (places : Nat) : Int := d.units * Nat.pow 10 (places - d.places)

end Decimal

def decimalText (places : Nat) (units : Int) : List Char :=
  (if units < 0 then ['-'] else []) ++
    Number.Fraction.pointed false places (Number.Fraction.digitsOf (places + 1) units.natAbs)

def zeroFilled (width : Nat) (digits : List Char) : List Char :=
  let zeros := List.replicate (width - digits.length) '0'
  match digits with
  | '-' :: rest => '-' :: zeros ++ rest
  | _ => zeros ++ digits

def counted (step last : Int) : (bound : Nat) → Int → List Int
  | 0, _ => []
  | bound + 1, n => if 0 < step && last < n || step < 0 && n < last then [] else n :: counted step last bound (n + step)

structure CountStyle where
  separator : String
  format : Option String
  equalWidth : Bool
  deriving DecidableEq, Repr, Inhabited

def countedText (style : CountStyle) (first step last : Decimal) : String :=
  let places := max first.places (max step.places last.places)
  let shown := max first.places step.places
  let units := counted (step.scaled places) (last.scaled places)
    (((last.scaled places - first.scaled places).natAbs / max 1 (step.scaled places).natAbs) + 2) (first.scaled places)
  let widthOf (d : Decimal) : Nat :=
    d.length + shown - d.places + (if d.places = 0 && 0 < shown then 1 else 0) -
      (if 0 < d.places && shown = 0 then 1 else 0)
  let width := if style.equalWidth then max (widthOf first) (widthOf last) else 0
  let text (n : Int) : String :=
    let digits := decimalText shown (n / Nat.pow 10 (places - shown))
    match style.format with
    | some format =>
      Raw.ofBytes (formatted .utility ("\\\\".intercalate (format.splitOn "\\")) [String.ofList digits]).printed
    | none => String.ofList (zeroFilled width digits)
  if units.isEmpty then "" else style.separator.intercalate (units.map text) ++ "\n"

def seq : Utility := fun _ args =>
  let known := [⟨'f', "format", .value⟩, ⟨'s', "separator", .value⟩, ⟨'w', "equal-width", .nothing⟩]
  let isNumber (arg : String) : Bool :=
    ((arg.toList.drop 1).head?.map fun c => c.isDigit || c == '.').getD false && arg.toList.head? == some '-'
  let (front, numbers) := args.span fun arg => !isNumber arg
  Grammar.after { name := "seq", known := known, mixed := false } front fun options args =>
    let args := args ++ numbers
    let style : CountStyle := ⟨(options.value? 's').getD "\n", options.value? 'f', options.has 'w'⟩
    let one : Decimal := ⟨1, 0, 1⟩
    match args.find? fun arg => (Decimal.ofText? arg).isNone with
    | some arg => if args.length ≤ 3 then .puzzled "seq" ("invalid floating point argument: " ++ inQuotes arg) else
        .puzzled "seq" ("extra operand " ++ inQuotes (args.getD 3 ""))
    | none =>
      match args.filterMap Decimal.ofText? with
      | [] => .puzzled "seq" "missing operand"
      | [last] => .printedText (countedText style one one last)
      | [first, last] => .printedText (countedText style first one last)
      | [first, step, last] =>
        if step.units = 0 then .puzzled "seq" ("invalid Zero increment value: " ++ inQuotes (args.getD 1 ""))
        else .printedText (countedText style first step last)
      | _ => .puzzled "seq" ("extra operand " ++ inQuotes (args.getD 3 ""))

def lastName (ending path : String) : String :=
  match (Files.components path).getLast? with
  | none => if path = "" then "" else "/"
  | some name =>
    match Text.stripEnd? ending.toList name.toList with
    | some (c :: stem) => if ending = "" then name else String.ofList (c :: stem)
    | _ => name

def basename : Utility := fun _ args =>
  let known := [⟨'a', "multiple", .nothing⟩, ⟨'s', "suffix", .value⟩, ⟨'z', "zero", .nothing⟩]
  Grammar.after { name := "basename", known := known, mixed := false } args fun options args =>
    let ended (name : String) : String := name ++ if options.has 'z' then "\x00" else "\n"
    let all (ending : String) (paths : List String) : Finished :=
      .printedText (String.join (paths.map fun path => ended (lastName ending path)))
    match args with
    | [] => .puzzled "basename" "missing operand"
    | path :: rest =>
      if options.has 'a' || options.has 's' then all ((options.value? 's').getD "") args
      else
        match rest with
        | [] => all "" [path]
        | [ending] => all ending [path]
        | _ => .puzzled "basename" ("extra operand " ++ inQuotes (args.getD 2 ""))

def folderOf (path : String) : String :=
  let isSlash (c : Char) : Bool := c == '/'
  let front := Text.dropEndWhile (fun c => !isSlash c) (Text.dropEndWhile isSlash path.toList)
  let folder := Text.dropEndWhile isSlash front
  if !folder.isEmpty then String.ofList folder
  else if path.toList.head? == some '/' then "/" else "."

def dirname : Utility := fun _ args =>
  Grammar.after { name := "dirname", known := [⟨'z', "zero", .nothing⟩], mixed := false } args fun options args =>
    let ended (name : String) : String := name ++ if options.has 'z' then "\x00" else "\n"
    if args.isEmpty then .puzzled "dirname" "missing operand"
    else .printedText (String.join (args.map fun path => ended (folderOf path)))

def printenv : Utility := fun found args =>
  let known := [⟨'0', "null", .nothing⟩]
  Grammar.after { name := "printenv", known := known, status := 2, mixed := false } args fun options names =>
    let lineEnd := if options.has '0' then "\x00" else "\n"
    if names.isEmpty then
      .printedText (String.join (found.environment.map fun (name, value) => s!"{name}={value}{lineEnd}"))
    else
      let values := names.map fun name => found.environment.lookup name
      { Finished.printedText (String.join (values.map fun value => (value.map (· ++ lineEnd)).getD "")) with
        ending := .exited (if values.all Option.isSome then 0 else 1) }

def pwd : Utility := fun found args =>
  let known := [⟨'L', "logical", .nothing⟩, ⟨'P', "physical", .nothing⟩]
  Grammar.after { name := "pwd", known := known } args fun options rest =>
    let place := Raw.ofText ("/" ++ "/".intercalate found.disk.working)
    let done := Finished.printedText (((if (options.getLast?.map Given.letter) = some 'L' then
      found.environment.lookup "PWD" else none).getD place) ++ "\n")
    if rest.isEmpty then done else { done with stderr := Raw.bytes "pwd: ignoring non-option arguments\n" }

def whoami : Utility := fun _ args =>
  Grammar.after { name := "whoami", known := [] } args fun _ args =>
    match args with
    | [] => .printedText "root\n"
    | arg :: _ => .puzzled "whoami" ("extra operand " ++ inQuotes arg)

def identity : Utility := fun _ args =>
  let known := [⟨'g', "group", .nothing⟩, ⟨'G', "groups", .nothing⟩, ⟨'n', "name", .nothing⟩, ⟨'r', "real", .nothing⟩,
    ⟨'u', "user", .nothing⟩]
  Grammar.after { name := "id", known := known } args fun options args =>
    let one := options.filter fun o => ['g', 'G', 'u'].contains o.letter
    match args, one with
    | user :: _, _ => if user = "root" then .printedText "uid=0(root) gid=0(root) groups=0(root)\n" else
        .complained (s!"id: " ++ inQuotes user ++ ": no such user") 1
    | [], [] =>
      if options.isEmpty then .printedText "uid=0(root) gid=0(root) groups=0(root)\n"
      else .complained "id: cannot print only names or real IDs in default format" 1
    | [], _ => .printedText (if options.has 'n' then "root\n" else "0\n")

end Emplace.Program.Utility
