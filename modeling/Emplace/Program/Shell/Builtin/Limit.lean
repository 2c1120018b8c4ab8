import Emplace.Program.Shell.Builtin

namespace Emplace.Program.Shell

def octalValue (digits : List Char) : Nat := digits.foldl (fun n c => 8 * n + Text.digitValue c) 0

def octalText (width n : Nat) : String :=
  let digits := Nat.toDigits 8 n
  String.ofList (List.replicate (width - digits.length) '0' ++ digits)

def classRights (c : Char) : Nat :=
  match c with
  | 'u' => 0o700
  | 'g' => 0o070
  | 'o' => 0o007
  | _ => 0o777

def rightBits? (c : Char) : Option Nat :=
  match c with
  | 'r' => some 0o444
  | 'w' => some 0o222
  | 'x' | 'X' => some 0o111
  | 's' => some 0
  | _ => none

def spreadRights (rights : Nat) (c : Char) : Nat :=
  let one := match c with
    | 'u' => rights / 64
    | 'g' => rights / 8 % 8
    | _ => rights % 8
  one * 0o111

def namedRights (rights : Nat) (cs : List Char) : Nat × List Char :=
  match cs with
  | c :: rest =>
    if ['u', 'g', 'o'].contains c then (spreadRights rights c, rest)
    else
      let named := cs.takeWhile fun c => (rightBits? c).isSome
      ((named.filterMap rightBits?).foldl (· ||| ·) 0, cs.drop named.length)
  | [] => (0, [])

def changeRights (classes : Nat) : (bound rights : Nat) → List Char → Option (Nat × List Char)
  | 0, rights, cs => some (rights, cs)
  | bound + 1, rights, sign :: cs =>
    if !(['+', '-', '='].contains sign) then some (rights, sign :: cs)
    else
      let (named, rest) := namedRights rights cs
      let bits := named &&& classes
      let kept := rights &&& (0o777 ^^^ classes)
      changeRights classes bound
        (match sign with
          | '+' => rights ||| bits
          | '-' => rights &&& (0o777 ^^^ bits)
          | _ => kept ||| bits) rest
  | _, rights, [] => some (rights, [])

def changeAllRights : (bound rights : Nat) → List Char → Option Nat
  | 0, _, _ => none
  | bound + 1, rights, cs =>
    let named := cs.takeWhile ['u', 'g', 'o', 'a'].contains
    let classes := if named.isEmpty then 0o777 else (named.map classRights).foldl (· ||| ·) 0
    match changeRights classes (cs.length + 1) rights (cs.drop named.length) with
    | some (rights, []) => some rights
    | some (rights, ',' :: rest) => if rest.length + 1 = cs.length then none else changeAllRights bound rights rest
    | _ => none

def shownRights (rights : Nat) : String :=
  let shown (c : Char) : String :=
    let one := spreadRights rights c &&& 7
    s!"{c}=" ++ (if one &&& 4 = 0 then "" else "r") ++ (if one &&& 2 = 0 then "" else "w") ++
      if one &&& 1 = 0 then "" else "x"
  ",".intercalate (['u', 'g', 'o'].map shown)

def umaskCommand : Builtin := fun s args =>
  withLetters s ['S'] [] args fun letters args =>
    let withMask (mask : Nat) : State := { s with mask := mask, status := 0 }
    match args with
    | [] =>
      let rights := 0o777 ^^^ s.mask
      (s.printLine (if letters.has 'S' then shownRights rights else octalText 4 s.mask)).succeed
    | arg :: _ =>
      if (arg.toList.head?.map Char.isDigit).getD false then
        if arg.toList.all fun c => '0' ≤ c && c ≤ '7' then withMask (octalValue arg.toList % 0o1000)
        else s.refuse s!"Illegal number: {arg}" 2
      else
        match changeAllRights (arg.length + 1) (0o777 ^^^ s.mask) arg.toList with
        | some rights => withMask (0o777 ^^^ rights)
        | none => s.refuse s!"Illegal mode: {arg}" 2

def limitTable : List (Char × String × Limit) :=
  let free : Limit := ⟨none, none⟩
  [('t', "time(seconds)", free), ('f', "file(blocks)", free), ('d', "data(kbytes)", free),
    ('s', "stack(kbytes)", ⟨some 8192, none⟩), ('c', "coredump(blocks)", ⟨some 0, none⟩),
    ('m', "memory(kbytes)", free), ('l', "locked memory(kbytes)", ⟨some 8192, some 8192⟩),
    ('p', "process", ⟨some 128619, some 128619⟩), ('n', "nofiles", ⟨some 20000, some 20000⟩),
    ('v', "vmemory(kbytes)", free), ('w', "locks", free), ('r', "rtprio", ⟨some 0, some 0⟩)]

def State.limitOf (s : State) (letter : Char) : Limit :=
  ((s.limits.lookup letter) <|> ((limitTable.lookup letter).map Prod.snd)).getD ⟨none, none⟩

def shownLimit (n : Option Nat) : String := (n.map toString).getD "unlimited"

def isWithin (a b : Option Nat) : Bool :=
  match a, b with
  | _, none => true
  | none, some _ => false
  | some a, some b => a ≤ b

def setLimit (s : State) (letter : Char) (soft hard : Bool) (value : Option Nat) : State :=
  let before := s.limitOf letter
  let now : Limit := ⟨if soft then value else before.soft, if hard then value else before.hard⟩
  if !isWithin now.soft now.hard then s.refuse "error setting limit (Invalid argument)" 2
  else if !isWithin now.hard before.hard then s.refuse "error setting limit (Operation not permitted)" 2
  else { s with limits := (letter, now) :: s.limits.filter (·.1 != letter), status := 0 }

def ulimitCommand : Builtin := fun s args =>
  withLetters s (['H', 'S', 'a'] ++ limitTable.map Prod.fst) [] args fun letters args =>
    let asked := letters.given.map Prod.fst
    let kinds := asked.filter fun c => c == 'H' || c == 'S'
    let isHard := kinds.getLast? = some 'H'
    let letter := ((asked.filter fun c => (limitTable.lookup c).isSome).getLast?).getD 'f'
    let value (letter : Char) : String :=
      shownLimit (if isHard then (s.limitOf letter).hard else (s.limitOf letter).soft)
    match args with
    | [] =>
      if asked.contains 'a' then
        (limitTable.foldl (fun s (c, words, _) => s.printLine (leftAligned 20 words ++ " " ++ value c)) s).succeed
      else (s.printLine (value letter)).succeed
    | _ :: _ :: _ => s.refuse "too many arguments" 2
    | [arg] =>
      if asked.contains 'a' then s.refuse "too many arguments" 2
      else
        let soft : Bool := kinds.getLast? != some 'H'
        let hard : Bool := kinds.getLast? != some 'S'
        if arg = "unlimited" then setLimit s letter soft hard none
        else if arg.toList.all Char.isDigit then setLimit s letter soft hard (some (Text.digitsValue arg.toList))
        else s.refuse "bad number" 2

def timesCommand : Builtin := fun s _ =>
  let line := "0m0.000000s 0m0.000000s"
  ((s.printLine line).printLine line).succeed

end Emplace.Program.Shell
