import Emplace.Program.Utility.Argument
import Emplace.Text.Numeral

namespace Emplace.Program.Utility

def isInput (path : String) : Bool := path = "-" || path = "/dev/stdin"

def contentOf (found : Surroundings) (path : String) : Except SystemError Bytes :=
  if isInput path then .ok found.input else found.disk.read (Raw.toText path)

/-- What the paths of arguments hold, or the input if there are none. The input is used up by the first who reads
it. -/
def contents (found : Surroundings) : (used : Bool) → List String → List (String × Except SystemError Bytes)
  | _, [] => []
  | used, path :: rest =>
    (path, if used && isInput path then .ok [] else contentOf found path) :: contents found (used || isInput path) rest

def orInput (paths : List String) : List String := if paths.isEmpty then ["-"] else paths

def overInputs (found : Surroundings) (paths : List String)
    (act : String → Except SystemError Bytes → Finished) : Finished :=
  (contents found false (orInput paths)).foldl
    (fun f (path, content) =>
      f.followedBy { act path content with unread := if isInput path then some [] else none })
    (.silent 0)

def pathFault (name : String) (path : String) (e : SystemError) : Finished :=
  .complained s!"{name}: {shownPath path}: {e.words}" 1

def withAll (name : String) (found : Surroundings) (paths : List String) (act : Bytes → Finished) : Finished :=
  let read := overInputs found paths fun path content =>
    match content with
    | .ok bytes => .printed bytes
    | .error e => pathFault name path e
  let done := act read.stdout
  { done with
    stderr := read.stderr ++ done.stderr
    unread := read.unread
    ending := if done.ending = .exited 0 then read.ending else done.ending }

def recordsOf (last : UInt8) (bytes : Bytes) : List Bytes :=
  let (records, rest) := bytes.foldr
    (fun b (records, record) =>
      if b = last then (if record.isEmpty then records else record :: records, [b]) else (records, b :: record))
    (([] : List Bytes), ([] : Bytes))
  if rest.isEmpty then records else rest :: records

def linesOf (bytes : Bytes) : List Bytes := recordsOf 10 bytes

def withoutEnd (last : UInt8) (record : Bytes) : Bytes :=
  if record.getLast? = some last then record.dropLast else record

def bareRecords (last : UInt8) (bytes : Bytes) : List Bytes := (recordsOf last bytes).map (withoutEnd last)

def bareLines (bytes : Bytes) : List Bytes := bareRecords 10 bytes

def joinRecords (last : UInt8) (records : List Bytes) : Bytes := records.flatMap (· ++ [last])

def recordEnd (options : GivenOptions) : UInt8 := if options.has 'z' then 0 else 10

def units : List (String × Nat) :=
  let letters := ["K", "M", "G", "T", "P", "E", "Z", "Y"]
  ("b", 512) :: ("kB", 1000) :: ("k", 1024) ::
    (letters.zipIdx.flatMap fun (c, i) =>
      [(c, Nat.pow 1024 (i + 1)), (c ++ "B", Nat.pow 1000 (i + 1)), (c ++ "iB", Nat.pow 1024 (i + 1))])

def count? (text : String) : Option Nat :=
  let digits := text.toList.takeWhile Char.isDigit
  let unit := String.ofList (text.toList.drop digits.length)
  match Text.digits? digits, if unit = "" then some 1 else units.lookup unit with
  | some n, some size => some (n * size)
  | _, _ => none

end Emplace.Program.Utility
