import Emplace.Text.Blank
import Emplace.Text.Numeral

namespace Emplace

structure Duration where
  nanos : Nat
  deriving DecidableEq, Repr, Inhabited

namespace Duration

instance : LE Duration := ⟨fun a b => a.nanos ≤ b.nanos⟩
instance : LT Duration := ⟨fun a b => a.nanos < b.nanos⟩
instance (a b : Duration) : Decidable (a ≤ b) := inferInstanceAs (Decidable (a.nanos ≤ b.nanos))
instance (a b : Duration) : Decidable (a < b) := inferInstanceAs (Decidable (a.nanos < b.nanos))

def ofMillis (n : Nat) : Duration := ⟨n * 1000000⟩

def ofSecs (n : Nat) : Duration := ⟨n * 1000000000⟩

def secs (d : Duration) : Nat := d.nanos / 1000000000

def subsecNanos (d : Duration) : Nat := d.nanos % 1000000000

theorem secs_ofSecs (n : Nat) : (ofSecs n).secs = n := by
  simp [ofSecs, secs]

theorem subsecNanos_ofSecs (n : Nat) : (ofSecs n).subsecNanos = 0 := by
  simp [ofSecs, subsecNanos]

theorem secs_ofMillis (n : Nat) : (ofMillis n).secs = n / 1000 := by
  simp only [ofMillis, secs]; omega

theorem subsecNanos_ofMillis (n : Nat) : (ofMillis n).subsecNanos = n % 1000 * 1000000 := by
  simp only [ofMillis, subsecNanos]; omega

/-- Reads a duration: blanks around it are ignored, `ms`, `s` and `m` are the units, and a bare number
counts seconds. Numbers beyond a 64-bit count, of seconds for minutes too, are refused. -/
def ofText? (text : String) : Option Duration :=
  let body := Text.trim text.toList
  if let some count := Text.stripEnd? ['m', 's'] body then
    (Text.word64? count).map ofMillis
  else if let some count := Text.stripEnd? ['s'] body then
    (Text.word64? count).map ofSecs
  else if let some count := Text.stripEnd? ['m'] body then
    ((Text.word64? count).map (60 * ·)).bind fun n =>
      if n ≤ Text.maxWord64 then some (ofSecs n) else none
  else
    (Text.word64? body).map ofSecs

def fraction (width value : Nat) : String :=
  let digits := (Nat.toDigits 10 value).leftpad width '0'
  let kept := Text.dropEndWhile (· == '0') digits
  if kept.isEmpty then "" else "." ++ String.ofList kept

def text (d : Duration) : String :=
  if 0 < d.secs then s!"{d.secs}{fraction 9 d.subsecNanos}s"
  else if 1000000 ≤ d.nanos then s!"{d.nanos / 1000000}{fraction 6 (d.nanos % 1000000)}ms"
  else if 1000 ≤ d.nanos then s!"{d.nanos / 1000}{fraction 3 (d.nanos % 1000)}µs"
  else s!"{d.nanos}ns"

end Duration

end Emplace
