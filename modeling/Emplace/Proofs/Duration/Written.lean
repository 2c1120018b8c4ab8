import Emplace.Duration
import Emplace.Proofs.Text.Numeral

namespace Emplace.Duration

open Text (Denotes exists_last_digit first_of_denotes inWords? isBlank last_of_denotes le_maxWord64_iff
  lt_two_pow_of_denotes ne_append_of_denotes stripEnd? stripEnd?_eq_none_iff stripEnd?_eq_some_iff trim word64?
  word64?_eq_inWords? word64?_eq_some_iff)

inductive Written : List Char → (secs nanos : Nat) → Prop
  | millis {cs : List Char} {n : Nat} (count : Denotes cs n) :
      Written (cs ++ ['m', 's']) (n / 1000) (n % 1000 * 1000000)
  | secs {cs : List Char} {n : Nat} (count : Denotes cs n) : Written (cs ++ ['s']) n 0
  | minutes {cs : List Char} {n : Nat} (count : Denotes cs n) (fits : 60 * n < 2 ^ 64) :
      Written (cs ++ ['m']) (60 * n) 0
  | bare {cs : List Char} {n : Nat} (count : Denotes cs n) : Written cs n 0

variable {cs body : List Char} {n secs nanos : Nat} {text : String} {d e : Duration}

theorem eq_of_parts (same : d.secs = e.secs) (rest : d.subsecNanos = e.subsecNanos) : d = e := by
  obtain ⟨d⟩ := d
  obtain ⟨e⟩ := e
  simp only [Duration.secs, subsecNanos] at same rest
  congr 1
  omega

theorem Written.solid (written : Written body secs nanos) :
    (∀ c ∈ body.head?, isBlank c = false) ∧ ∀ c ∈ body.getLast?, isBlank c = false := by
  have first {cs : List Char} {n : Nat} (count : Denotes cs n) (unit : List Char) :
      ∀ c ∈ (cs ++ unit).head?, isBlank c = false := by
    obtain ⟨front, digit, rfl, -⟩ := exists_last_digit count
    simpa using first_of_denotes count
  cases written with
  | millis count => exact ⟨first count _, by simp; decide⟩
  | secs count => exact ⟨first count _, by simp; decide⟩
  | minutes count => exact ⟨first count _, by simp; decide⟩
  | bare count => exact ⟨first_of_denotes count, last_of_denotes count⟩

theorem written_of_ofText? (read : ofText? text = some d) : Written (trim text.toList) d.secs d.subsecNanos := by
  unfold ofText? at read
  generalize trim text.toList = body at read ⊢
  simp only at read
  split at read
  · rename_i count stripped
    obtain rfl := stripEnd?_eq_some_iff.1 stripped
    obtain ⟨n, count, rfl⟩ := Option.map_eq_some_iff.1 read
    rw [secs_ofMillis, subsecNanos_ofMillis]
    exact .millis (word64?_eq_some_iff.1 count)
  split at read
  · rename_i count stripped
    obtain rfl := stripEnd?_eq_some_iff.1 stripped
    obtain ⟨n, count, rfl⟩ := Option.map_eq_some_iff.1 read
    rw [secs_ofSecs, subsecNanos_ofSecs]
    exact .secs (word64?_eq_some_iff.1 count)
  split at read
  · rename_i count stripped
    obtain rfl := stripEnd?_eq_some_iff.1 stripped
    obtain ⟨m, counted, read⟩ := Option.bind_eq_some_iff.1 read
    obtain ⟨n, count, rfl⟩ := Option.map_eq_some_iff.1 counted
    obtain ⟨fits, same⟩ := Option.ite_none_right_eq_some.1 read
    obtain rfl := Option.some.inj same
    rw [secs_ofSecs, subsecNanos_ofSecs]
    exact .minutes (word64?_eq_some_iff.1 count) (le_maxWord64_iff.1 fits)
  · obtain ⟨n, count, rfl⟩ := Option.map_eq_some_iff.1 read
    rw [secs_ofSecs, subsecNanos_ofSecs]
    exact .bare (word64?_eq_some_iff.1 count)

theorem stripEnd?_of_last {c : Char} (other : cs.getLast? ≠ some c) (unit : List Char) :
    stripEnd? (unit ++ [c]) cs = none := by
  rw [stripEnd?_eq_none_iff]
  rintro rest rfl
  apply other
  simp

theorem getLast?_of_denotes (count : Denotes cs n) {c : Char} (alien : c.isDigit = false) : cs.getLast? ≠ some c := by
  intro last
  obtain ⟨rest, same⟩ := List.getLast?_eq_some_iff.1 last
  exact ne_append_of_denotes count alien rest same

theorem stripEnd?_millis_of_denotes (count : Denotes cs n) : stripEnd? ['m', 's'] (cs ++ ['s']) = none := by
  rw [stripEnd?_eq_none_iff]
  intro rest same
  apply ne_append_of_denotes count (c := 'm') (by decide) rest
  apply (List.append_left_inj ['s']).1
  simpa using same

theorem ofText?_of_written (written : Written (trim text.toList) d.secs d.subsecNanos) : ofText? text = some d := by
  have stripped (cs unit : List Char) : stripEnd? unit (cs ++ unit) = some cs := stripEnd?_eq_some_iff.2 rfl
  unfold ofText?
  generalize trim text.toList = body at written ⊢
  generalize secs : d.secs = s at written
  generalize nanos : d.subsecNanos = ns at written
  cases written with
  | @millis cs n count =>
      have same : ofMillis n = d :=
        eq_of_parts (by rw [secs, secs_ofMillis]) (by rw [nanos, subsecNanos_ofMillis])
      simp only [stripped, word64?_eq_some_iff.2 count, Option.map_some, same]
  | @secs cs _ count =>
      have same : ofSecs s = d := eq_of_parts (by rw [secs, secs_ofSecs]) (by rw [nanos, subsecNanos_ofSecs])
      simp only [stripEnd?_millis_of_denotes count, stripped, word64?_eq_some_iff.2 count, Option.map_some, same]
  | @minutes cs n count fits =>
      have same : ofSecs (60 * n) = d := eq_of_parts (by rw [secs, secs_ofSecs]) (by rw [nanos, subsecNanos_ofSecs])
      have millis : stripEnd? ['m', 's'] (cs ++ ['m']) = none := stripEnd?_of_last (by simp) ['m']
      have seconds : stripEnd? ['s'] (cs ++ ['m']) = none := stripEnd?_of_last (by simp) []
      simp only [millis, seconds, stripped, word64?_eq_some_iff.2 count, Option.map_some, Option.bind_some,
        le_maxWord64_iff, if_pos fits, same]
  | bare count =>
      have same : ofSecs s = d := eq_of_parts (by rw [secs, secs_ofSecs]) (by rw [nanos, subsecNanos_ofSecs])
      have millis : stripEnd? ['m', 's'] body = none := stripEnd?_of_last (getLast?_of_denotes count (by decide)) ['m']
      have seconds : stripEnd? ['s'] body = none := stripEnd?_of_last (getLast?_of_denotes count (by decide)) []
      have minutes : stripEnd? ['m'] body = none := stripEnd?_of_last (getLast?_of_denotes count (by decide)) []
      simp only [millis, seconds, minutes, word64?_eq_some_iff.2 count, Option.map_some, same]

structure Readings : Prop where
  read_iff : ∀ text d, ofText? text = some d ↔ ∃ before body after, text.toList = before ++ body ++ after ∧
    (∀ c ∈ before, isBlank c = true) ∧ (∀ c ∈ after, isBlank c = true) ∧ Written body d.secs d.subsecNanos
  fits : ∀ text d, ofText? text = some d → d.secs < 2 ^ 64
  /-- Its numeral can as well be read in words, where each digit that would not fit is refused. -/
  unwrapped : ∀ cs, word64? cs = (inWords? cs).map UInt64.toNat

theorem Written.lt_two_pow (written : Written body secs nanos) : secs < 2 ^ 64 := by
  cases written with
  | @millis cs n count =>
      have fits := lt_two_pow_of_denotes count
      omega
  | secs count => exact lt_two_pow_of_denotes count
  | minutes count fits => exact fits
  | bare count => exact lt_two_pow_of_denotes count

theorem ofText?_eq_some_iff : ofText? text = some d ↔ Written (trim text.toList) d.secs d.subsecNanos :=
  ⟨written_of_ofText?, ofText?_of_written⟩

theorem trim_surrounded {before after : List Char} (start : ∀ c ∈ before, isBlank c = true)
    (finish : ∀ c ∈ after, isBlank c = true) (written : Written body secs nanos) :
    trim (before ++ body ++ after) = body := by
  rw [trim, Text.trimWhile_surrounded body start finish, Text.trimWhile_eq_self written.solid.1 written.solid.2]

theorem readings : Readings where
  read_iff text d := by
    rw [ofText?_eq_some_iff]
    constructor
    · intro written
      obtain ⟨before, after, split, start, finish⟩ := Text.surrounded_trimWhile isBlank text.toList
      exact ⟨before, trim text.toList, after, split, start, finish, written⟩
    · rintro ⟨before, body, after, split, start, finish, written⟩
      rwa [split, trim_surrounded start finish written]
  fits text d read := (written_of_ofText? read).lt_two_pow
  unwrapped cs := word64?_eq_inWords? cs

end Emplace.Duration
