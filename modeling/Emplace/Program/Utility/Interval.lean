import Emplace.Program.Format

namespace Emplace.Program.Utility

def timeUnits : List (List Char × Nat) := [([], 1), (['s'], 1), (['m'], 60), (['h'], 3600), (['d'], 86400)]

def foreverNanos : Nat := Nat.pow 10 30

def intervalOf? (arg : String) : Option Nat :=
  let (negative, body) := signOf arg.toList
  let endless := ["infinity", "inf"].findSome? fun word =>
    Text.stripStart? word.toList (body.map Char.toLower)
  if negative then none
  else
    match decimalNumber? body, endless with
    | some (x, rest), _ =>
      (timeUnits.lookup rest).map fun size => x.numerator * size * 1000000000 / max 1 x.denominator
    | none, some rest => (timeUnits.lookup rest).map fun _ => foreverNanos
    | none, none => none

def sleep : Utility := fun _ args =>
  Grammar.after { name := "sleep", known := [] } args fun _ args =>
    let wrong := args.filter fun arg => (intervalOf? arg).isNone
    if args.isEmpty then .puzzled "sleep" "missing operand"
    else if wrong.isEmpty then { Finished.silent 0 with took := (args.filterMap intervalOf?).foldl (· + ·) 0 }
    else
      .complained ("\n".intercalate ((wrong.map fun arg => "sleep: invalid time interval " ++ inQuotes arg) ++
        ["Try \x27sleep --help\x27 for more information."])) 1

end Emplace.Program.Utility
