namespace Emplace.Text

def digitValue (c : Char) : Nat := c.toNat - '0'.toNat

def digitsValue (cs : List Char) : Nat :=
  cs.foldl (fun n c => 10 * n + digitValue c) 0

theorem digitsValue_append_singleton (cs : List Char) (c : Char) :
    digitsValue (cs ++ [c]) = 10 * digitsValue cs + digitValue c := by
  simp [digitsValue, List.foldl_append]

def digits? (cs : List Char) : Option Nat :=
  if cs ≠ [] ∧ cs.all Char.isDigit then some (digitsValue cs) else none

def maxWord64 : Nat := UInt64.size - 1

def word64? (cs : List Char) : Option Nat :=
  let body := match cs with
    | '+' :: rest => rest
    | _ => cs
  (digits? body).filter (· ≤ maxWord64)

theorem word64?_le {cs : List Char} {n : Nat} (h : word64? cs = some n) : n ≤ maxWord64 := by
  simp only [word64?, Option.filter_eq_some_iff, decide_eq_true_eq] at h
  exact h.2

end Emplace.Text
