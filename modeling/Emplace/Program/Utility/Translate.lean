import Emplace.Program.Escape
import Emplace.Program.Pattern
import Emplace.Program.Utility.Input

namespace Emplace.Program.Utility

namespace Translate

inductive Element
  | one (b : UInt8)
  | range (first last : UInt8)
  | named (name : String)
  | repeated (b : UInt8) (count : Nat)
  deriving DecidableEq, Repr, Inhabited

def byteAt? (cs : List Char) : Option (UInt8 × Bool × List Char) :=
  match cs with
  | [] => none
  | ['\\'] => some (92, true, [])
  | '\\' :: c :: rest =>
    match Escapes.letterByte? ⟨false, false, false, false, false⟩ (if c == 'e' then 'x' else c) with
    | some b => some (b, true, rest)
    | none =>
      let octal := ((c :: rest).take 3).takeWhile isOctal
      let octal := if valueIn 8 octal < 256 then octal else octal.take 2
      if octal.isEmpty then some (UInt8.ofNat c.toNat, true, rest)
      else some (UInt8.ofNat (valueIn 8 octal), true, (c :: rest).drop octal.length)
  | c :: rest => some (UInt8.ofNat c.toNat, false, rest)

def units : (bound : Nat) → List Char → List (UInt8 × Bool)
  | 0, _ => []
  | bound + 1, cs =>
    match byteAt? cs with
    | some (b, escaped, rest) => (b, escaped) :: units bound rest
    | none => []

def upTo? (sign : UInt8) : List (UInt8 × Bool) → Option (Bytes × List (UInt8 × Bool))
  | (b, escaped) :: (c, escaped') :: rest =>
    if b = sign && !escaped && c = 93 && !escaped' then some ([], rest)
    else (upTo? sign ((c, escaped') :: rest)).map fun (inner, rest) => (b :: inner, rest)
  | _ => none

def times? (us : List (UInt8 × Bool)) : Option (Nat × List (UInt8 × Bool)) :=
  let digits := (us.takeWhile fun (b, _) => b ≠ 93).map fun (b, _) => Char.ofNat b.toNat
  let base := if digits.head? == some '0' then 8 else 10
  if us.length ≤ digits.length || !digits.all fun c => c.isDigit && (base = 10 || isOctal c) then none
  else some (valueIn base digits, us.drop (digits.length + 1))

def shownRange (first last : UInt8) : String :=
  let shown (b : UInt8) : String :=
    if 32 ≤ b && b < 127 then (Char.ofNat b.toNat).toString else String.ofList (escapedByte b)
  s!"\x27{shown first}-{shown last}\x27"

def elements : (bound : Nat) → List (UInt8 × Bool) → Except String (List Element)
  | 0, _ => .ok []
  | _, [] => .ok []
  | bound + 1, (b, escaped) :: rest =>
    let onward (e : Element) (rest : List (UInt8 × Bool)) : Except String (List Element) :=
      (elements bound rest).map (e :: ·)
    let plain : Except String (List Element) :=
      match rest with
      | (45, false) :: (c, _) :: behind =>
        if b ≤ c then onward (.range b c) behind
        else .error s!"range-endpoints of {shownRange b c} are in reverse collating sequence order"
      | _ => onward (.one b) rest
    if b = 91 && !escaped then
      match rest with
      | (58, false) :: inner =>
        match upTo? 58 inner with
        | some (name, behind) =>
          let name := Raw.ofBytes name
          if (classRanges.lookup name).isSome then onward (.named name) behind
          else if name = "" then .error "missing character class name \x27[::]\x27"
          else .error ("invalid character class " ++ inQuotes name)
        | none => plain
      | (61, false) :: inner =>
        match upTo? 61 inner with
        | some ([c], behind) => onward (.one c) behind
        | _ => plain
      | (c, _) :: (42, false) :: inner =>
        match times? inner with
        | some (count, behind) => onward (.repeated c count) behind
        | none => plain
      | _ => plain
    else plain

def ofText (text : String) : Except String (List Element) :=
  let us := units (text.length + 1) text.toList
  elements (us.length + 1) us

def bytesIn (ranges : Ranges) : Bytes :=
  ranges.flatMap fun (a, b) => (List.range (b.toNat + 1 - a.toNat)).map fun i => UInt8.ofNat (a.toNat + i)

def Element.bytes : Element → Bytes
  | .one b => [b]
  | .range a b => (List.range (b.toNat + 1 - a.toNat)).map fun i => UInt8.ofNat (a.toNat + i)
  | .named name => bytesIn ((classRanges.lookup name).getD [])
  | .repeated b count => List.replicate count b

/-- The bytes of a set; what is repeated as often as needed fills it up to a size. -/
def bytesOf (size : Nat) (es : List Element) : Bytes :=
  let known := (es.flatMap Element.bytes).length
  es.flatMap fun e => match e with
    | .repeated b 0 => List.replicate (size - known) b
    | e => e.bytes

def squeezed (set : Bytes) : Bytes → Bytes
  | a :: b :: rest => if a = b && set.contains a then squeezed set (b :: rest) else a :: squeezed set (b :: rest)
  | bytes => bytes

def complement (set : Bytes) : Bytes := ((List.range 256).map UInt8.ofNat).filter fun b => !set.contains b

/-- What each byte is exchanged for; behind the end of the second set its last byte counts. -/
def exchange (a b : Bytes) (byte : UInt8) : UInt8 :=
  match a.reverse.idxOf? byte with
  | some i => (b[a.length - 1 - i]?).getD (b.getLast?.getD byte)
  | none => byte

def misfit? (complemented : Bool) (a b : List Element) : Option String :=
  let isCase (e : Element) : Bool := e = .named "upper" || e = .named "lower"
  let isNamed (e : Element) : Bool := match e with
    | .named _ => true
    | _ => false
  let isFilled (e : Element) : Bool := match e with
    | .repeated _ 0 => true
    | _ => false
  let places (es : List Element) : List Nat :=
    (es.zipIdx.filter fun (e, _) => isCase e).map fun (_, i) => ((es.take i).flatMap Element.bytes).length
  if a.any isFilled then some "the [c*] repeat construct may not appear in string1"
  else if b.any fun e => isNamed e && !isCase e then
    some "when translating, the only character classes that may appear in\nstring2 are \x27upper\x27 and \x27lower\x27"
  else if b.any isCase && (complemented || (places b).any fun i => !(places a).contains i) then
    some "misaligned [:upper:] and/or [:lower:] construct"
  else none

end Translate

open Translate in
def tr : Utility := fun found args =>
  let known := [⟨'c', "complement", .nothing⟩, ⟨'C', "", .nothing⟩, ⟨'d', "delete", .nothing⟩,
    ⟨'s', "squeeze-repeats", .nothing⟩, ⟨'t', "truncate-set1", .nothing⟩]
  Grammar.after { name := "tr", known := known, mixed := false } args fun options args =>
    let complemented := options.has 'c' || options.has 'C'
    let drops := options.has 'd'
    let thins := options.has 's'
    let wanted := if drops = thins then 2 else 1
    let most := if drops && !thins then 1 else 2
    let pass (f : Bytes → Bytes) : Finished := { Finished.printed (f found.input) with unread := some [] }
    let fail (message : String) : Finished := .complained s!"tr: {message}" 1
    match args with
    | [] => .puzzled "tr" "missing operand"
    | first :: rest =>
      if args.length < wanted then
        .puzzled "tr" ("missing operand after " ++ inQuotes first ++
          (if drops then "\nTwo strings must be given when both deleting and squeezing repeats."
            else "\nTwo strings must be given when translating."))
      else if most < args.length then
        .puzzled "tr" ("extra operand " ++ inQuotes (args.getD most "") ++
          (if most = 1 && args.length = 2 then
            "\nOnly one string may be given when deleting without squeezing repeats." else ""))
      else
        match ofText first, rest.mapM ofText with
        | .error message, _ | _, .error message => fail message
        | .ok a, .ok others =>
          let listed := bytesOf 0 a
          let set := if complemented then complement listed else listed
          match others with
          | [] => pass fun input => if drops then input.filter fun b => !set.contains b else squeezed set input
          | b :: _ =>
            if drops then pass fun input => squeezed (bytesOf 256 b) (input.filter fun b => !set.contains b)
            else
              match misfit? complemented a b with
              | some message => fail message
              | none =>
                let target := bytesOf set.length b
                if target.isEmpty && !options.has 't' then
                  fail "when not truncating set1, string2 must be non-empty"
                else
                  let set := if options.has 't' then set.take target.length else set
                  let table := ((List.range 256).map fun n => exchange set target (UInt8.ofNat n)).toArray
                  pass fun input =>
                    let exchanged := input.map fun b => (table[b.toNat]?).getD b
                    if thins then squeezed target exchanged else exchanged

end Emplace.Program.Utility
