import Emplace.Toml.Document
import Emplace.Toml.Printer

/-!
# TOML strings read back

Every text survives being written in whichever of the four styles holds it and being read, in front of anything that
does not begin with a quote (`string_text`). A style leaves quotes that stand in a row as they are up to some number,
none on one line and two between triple quotes, and writes each other character in a piece that one step of its reader
takes: `Body` says so of the inside of a string, one induction for each way of closing reads it, and each style only has
to show that what it writes is such a body.
-/

namespace Emplace.Toml

open Reader

variable {α β σ : Type}

/-! ## Readers in sequence -/

namespace Reader

@[simp] theorem bind_apply (first : Reader α) (next : α → Reader β) (input : List Char) :
    (first >>= next) input = (first input).bind fun (a, rest) => next a rest := rfl

@[simp] theorem pure_apply (a : α) (input : List Char) : (pure a : Reader α) input = some (a, input) := rfl

end Reader

/-! ## Loops -/

/-- Step by step, each taking something off the input, a loop comes to a result and leaves the rest. -/
inductive Yields (step : σ → Reader (σ ⊕ α)) : σ → List Char → α → List Char → Prop
  | done {state : σ} {input rest : List Char} {a : α} (read : step state input = some (.inr a, rest)) :
    Yields step state input a rest
  | next {state next : σ} {input left rest : List Char} {a : α} (read : step state input = some (.inl next, left))
    (shorter : left.length < input.length) (later : Yields step next left a rest) : Yields step state input a rest

theorem Yields.piece {step : σ → Reader (σ ⊕ α)} {state next : σ} {c : Char} {cs left rest : List Char} {a : α}
    (read : step state (c :: cs ++ left) = some (.inl next, left)) (later : Yields step next left a rest) :
    Yields step state (c :: cs ++ left) a rest := by
  refine .next read ?_ later
  simp only [List.cons_append, List.length_cons, List.length_append]
  omega

theorem Yields.iterateWithin {step : σ → Reader (σ ⊕ α)} {state : σ} {input rest : List Char} {a : α}
    (yields : Yields step state input a rest) (bound : Nat) (enough : input.length < bound) :
    iterateWithin step bound state input = some (a, rest) := by
  induction yields generalizing bound with
  | done read =>
      obtain ⟨bound, rfl⟩ : ∃ n, bound = n + 1 := ⟨bound - 1, by omega⟩
      simp only [Toml.iterateWithin, read]
  | next read shorter _ ih =>
      obtain ⟨bound, rfl⟩ : ∃ n, bound = n + 1 := ⟨bound - 1, by omega⟩
      simp only [Toml.iterateWithin, read]
      exact ih bound (by omega)

theorem Yields.iterate {step : σ → Reader (σ ⊕ α)} {state : σ} {input rest : List Char} {a : α}
    (yields : Yields step state input a rest) : iterate step state input = some (a, rest) :=
  yields.iterateWithin _ (Nat.lt_succ_self _)

/-! ## Bodies of strings -/

/-- The inside of a string, written behind `run` quotes in a row, and the characters that it stands for. -/
inductive Body (step : List Char → Reader (List Char ⊕ String)) (quote : Char) (allowed : Nat) :
    Nat → List Char → List Char → Prop
  | nil (run : Nat) : Body step quote allowed run [] []
  | quote {run : Nat} {text cs : List Char} (few : run < allowed) (rest : Body step quote allowed (run + 1) text cs) :
    Body step quote allowed run (quote :: text) (quote :: cs)
  | piece {run : Nat} {p c : Char} {ps text cs : List Char} (other : p ≠ quote)
    (reads : ∀ read tail, step read (p :: ps ++ tail) = some (.inl (c :: read), tail))
    (rest : Body step quote allowed 0 text cs) : Body step quote allowed run (p :: ps ++ text) (c :: cs)

variable {step : List Char → Reader (List Char ⊕ String)} {quote : Char} {allowed run : Nat}
  {text cs read rest : List Char}

theorem Body.yields_short (body : Body step quote 0 run text cs)
    (closes : ∀ read tail, step read (quote :: tail) = some (.inr (String.ofList read.reverse), tail))
    (read rest : List Char) : Yields step read (text ++ quote :: rest) (String.ofList (read.reverse ++ cs)) rest := by
  induction body generalizing read with
  | nil =>
      rw [List.append_nil]
      exact .done (closes read rest)
  | quote few => exact absurd few (Nat.not_lt_zero _)
  | piece other reads _ ih =>
      rw [List.append_assoc]
      refine .piece (reads read _) ?_
      simpa using ih (_ :: read)

/-! ## Runs of quotes -/

theorem run_front {p : Char → Bool} {front rest : List Char} (inside : ∀ c ∈ front, p c = true)
    (behind : ∀ c, rest.head? = some c → p c = false) :
    (front ++ rest).takeWhile p = front ∧ (front ++ rest).dropWhile p = rest := by
  rw [List.takeWhile_append_of_pos inside, List.dropWhile_append_of_pos inside]
  cases rest with
  | nil => simp
  | cons c rest => simp [behind c rfl]

theorem takeWhile_quotes (count : Nat) (other : rest.head? ≠ some quote) :
    (List.replicate count quote ++ rest).takeWhile (· == quote) = List.replicate count quote := by
  refine (run_front (by simp) ?_).1
  rintro c head
  have ne : c ≠ quote := by
    rintro rfl
    exact other head
  simpa using ne

theorem closing_few (read : List Char) {count : Nat} (few : count < 3) (other : rest.head? ≠ some quote) :
    closing quote read (List.replicate count quote ++ rest) = (.inl (List.replicate count quote ++ read), rest) := by
  simp only [closing, takeWhile_quotes count other, List.length_replicate, if_pos few, List.drop_left']

theorem closing_three (read : List Char) (own : run ≤ 2) (other : rest.head? ≠ some quote) :
    closing quote read (List.replicate (run + 3) quote ++ rest) =
      (.inr (String.ofList (read.reverse ++ List.replicate run quote)), rest) := by
  have many : ¬run + 3 < 3 := by omega
  have kept : min (run + 3 - 3) 2 = run := by omega
  simp only [closing, takeWhile_quotes (run + 3) other, List.length_replicate, if_neg many, kept]
  simp

theorem Yields.quotes {a : String} {left : List Char}
    (closes : ∀ read tail, step read (quote :: tail) = some (closing quote read (quote :: tail)))
    (few : run < 3) (other : rest.head? ≠ some quote)
    (later : Yields step (List.replicate run quote ++ read) rest a left) :
    Yields step read (List.replicate run quote ++ rest) a left := by
  cases run with
  | zero => exact later
  | succ run =>
      refine .next ?_ (by simp only [List.length_append, List.length_replicate]; omega) later
      rw [List.replicate_succ, List.cons_append, closes, ← List.cons_append, ← List.replicate_succ,
        closing_few read few other]

theorem Body.yields_long (body : Body step quote 2 run text cs) (few : run ≤ 2)
    (closes : ∀ read tail, step read (quote :: tail) = some (closing quote read (quote :: tail)))
    (other : rest.head? ≠ some quote) (read : List Char) :
    Yields step read (List.replicate run quote ++ (text ++ (List.replicate 3 quote ++ rest)))
      (String.ofList (read.reverse ++ (List.replicate run quote ++ cs))) rest := by
  induction body generalizing read with
  | nil run =>
      rw [List.nil_append, ← List.append_assoc, List.replicate_append_replicate, List.append_nil]
      apply Yields.done
      rw [List.replicate_succ, List.cons_append, closes, ← List.cons_append, ← List.replicate_succ,
        closing_three read few other]
  | @quote run text cs room _ ih =>
      have next := ih (by omega) read
      rwa [List.replicate_succ', List.append_assoc, List.append_assoc] at next
  | @piece run p c ps text cs notQuote reads _ ih =>
      have stops : (p :: ps ++ text ++ (List.replicate 3 quote ++ rest)).head? ≠ some quote := by simpa using notQuote
      have next := ih (by omega) (c :: (List.replicate run quote ++ read))
      refine .quotes closes (by omega) stops ?_
      rw [List.append_assoc]
      refine .piece (reads _ _) ?_
      simpa using next

/-! ## Characters between double quotes -/

open Printer

theorem isCommentChar_of_not_isCode {c : Char} (code : isCode c = false) (newline : c ≠ '\n') :
    isCommentChar c = true := by
  by_cases tab : c = '\t'
  · subst tab
    rfl
  · have printed : ¬c < ' ' ∧ c ≠ '\x7f' := by simpa [isCode, tab, newline] using code
    simpa [isCommentChar, tab] using printed

theorem codePoint_append {digits : List Char} {values : List Nat} {c : Char}
    (hex : digits.mapM Text.hexValue? = some values) (value : values.foldl (fun n d => 16 * n + d) 0 = c.toNat)
    (rest : List Char) : codePoint digits.length (digits ++ rest) = some (c, rest) := by
  have enough : ¬(digits ++ rest).length < digits.length := by simp
  have valid : c.toNat.isValidChar := c.valid
  have same : Char.ofNatAux c.toNat valid = c := by
    have := Char.ofNat_toNat c
    rwa [Char.ofNat, dif_pos valid] at this
  rw [codePoint, if_neg enough, List.take_left, List.drop_left, hex]
  dsimp only
  generalize values.foldl (fun n d => 16 * n + d) 0 = n at value ⊢
  subst value
  rw [dif_pos valid, same]

theorem codePoint_codeEscape {c : Char} (code : isCode c = true) (rest : List Char) :
    codePoint 4 ((codeEscape c).drop 2 ++ rest) = some (c, rest) := by
  have low : c.toNat < 128 := by
    simp only [isCode, Bool.or_eq_true, Bool.and_eq_true, decide_eq_true_eq, beq_iff_eq] at code
    obtain ⟨⟨control, -⟩, -⟩ | rfl := code
    · exact Nat.lt_trans (show c.toNat < ' '.toNat from control) (by decide)
    · decide
  have all : ∀ n < 128, ((codeEscape (Char.ofNat n)).drop 2).length = 4 ∧
      ((codeEscape (Char.ofNat n)).drop 2).mapM Text.hexValue? = some [0, 0, n / 16, n % 16] := by decide
  have digits := all c.toNat low
  rw [Char.ofNat_toNat] at digits
  have value : [0, 0, c.toNat / 16, c.toNat % 16].foldl (fun n d => 16 * n + d) 0 = c.toNat := by
    simp only [List.foldl_cons, List.foldl_nil]
    omega
  have read := codePoint_append digits.2 value rest
  rwa [digits.1] at read

inductive Written (newlines : Bool) (c : Char) : List Char → Prop
  | plain (printed : isCommentChar c = true) (other : c ≠ '\\') : Written newlines c [c]
  | lineEnd (allowed : newlines = true) (same : c = '\n') : Written newlines c ['\n']
  | escape {e : Char} {es : List Char} (letter : e ∉ [' ', '\t', '\n', '\r'])
    (reads : ∀ rest, escape (e :: es ++ rest) = some (c, rest)) : Written newlines c ('\\' :: e :: es)

theorem written_escaped (newlines : Bool) (c : Char) : Written newlines c (escaped newlines c) := by
  unfold escaped
  split
  · subst_vars; exact .escape (by decide) fun _ => rfl
  split
  · subst_vars; exact .escape (by decide) fun _ => rfl
  split
  · cases newlines with
    | true => subst_vars; exact .lineEnd rfl rfl
    | false => subst_vars; exact .escape (by decide) fun _ => rfl
  iterate 3
    split
    · subst_vars; exact .escape (by decide) fun _ => rfl
  split
  · rename_i code
    exact .escape (by decide) fun rest => codePoint_codeEscape code rest
  · rename_i tab newline _ _ backslash code
    exact .plain (isCommentChar_of_not_isCode (by simpa using code) newline) backslash

theorem basicStep_written {c : Char} {text : List Char} (written : Written false c text) (own : c ≠ '"')
    (read rest : List Char) : basicStep read (text ++ rest) = some (.inl (c :: read), rest) := by
  cases written with
  | plain printed other =>
      have basic : isBasicChar c = true := by simp [isBasicChar, printed, own, other]
      simp [basicStep, basic]
  | lineEnd forbidden => cases forbidden
  | @escape e es letter reads =>
      show (escape (e :: es ++ rest)).map _ = _
      rw [reads, Option.map_some]

theorem newline_of_head {input : List Char} (feed : input.head? ≠ some '\n') (carriage : input.head? ≠ some '\r') :
    newline input = none := by
  unfold newline
  split
  · simp at feed
  · simp at carriage
  · rfl

theorem lineJoin_of_head {c : Char} (other : c ∉ [' ', '\t', '\n', '\r']) (rest : List Char) :
    lineJoin (c :: rest) = none := by
  simp only [List.mem_cons, List.not_mem_nil, or_false, not_or] at other
  obtain ⟨space, tab, feed, carriage⟩ := other
  have ended : newline (c :: rest) = none := newline_of_head (by simpa using feed) (by simpa using carriage)
  simp [lineJoin, skipSpaces, isSpace, space, tab, ended]

theorem longBasicStep_written {c : Char} {text : List Char} (written : Written true c text) (own : c ≠ '"')
    (read rest : List Char) : longBasicStep read (text ++ rest) = some (.inl (c :: read), rest) := by
  cases written with
  | plain printed other =>
      have basic : isBasicChar c = true := by simp [isBasicChar, printed, own, other]
      simp [longBasicStep, basic]
  | lineEnd _ same => subst same; rfl
  | @escape e es letter reads =>
      have unjoined : lineJoin (e :: es ++ rest) = none := lineJoin_of_head letter _
      simp only [List.cons_append] at unjoined reads ⊢
      simp only [longBasicStep, unjoined, reads, Option.map_some]

theorem body_basicBody {newlines : Bool} (run : Nat) (cs : List Char)
    (reads : ∀ c text read rest, Written newlines c text → c ≠ '"' →
      step read (text ++ rest) = some (.inl (c :: read), rest))
    (quoted : ∀ read rest, step read ('\\' :: '"' :: rest) = some (.inl ('"' :: read), rest)) :
    Body step '"' allowed run (basicBody newlines allowed run cs) cs := by
  induction cs generalizing run with
  | nil => exact .nil run
  | cons c cs ih =>
      unfold basicBody
      split
      · rename_i same
        subst same
        split
        · rename_i few
          exact .quote few (ih _)
        · exact @Body.piece _ _ _ _ '\\' '"' ['"'] _ cs (by decide) quoted (ih 0)
      · rename_i own
        have written := written_escaped newlines c
        have nonempty : ∃ p ps, escaped newlines c = p :: ps ∧ p ≠ '"' := by
          generalize escaped newlines c = text at written
          cases written with
          | plain => exact ⟨c, [], rfl, own⟩
          | lineEnd => exact ⟨'\n', [], rfl, by decide⟩
          | escape => exact ⟨'\\', _, rfl, by decide⟩
        obtain ⟨p, ps, eq, other⟩ := nonempty
        rw [eq] at written ⊢
        exact .piece other (fun read rest => reads c _ read rest written own) (ih 0)

/-! ## Characters between single quotes -/

def countRun (c : Char) : Nat × Nat → Char → Nat × Nat :=
  fun (best, current) d => if d = c then (max best (current + 1), current + 1) else (best, 0)

theorem le_foldl_countRun (quote : Char) (best run : Nat) (cs : List Char) :
    best ≤ (cs.foldl (countRun quote) (best, run)).1 := by
  induction cs generalizing best run with
  | nil => exact Nat.le_refl _
  | cons c cs ih =>
      rw [List.foldl_cons, countRun]
      split
      · exact Nat.le_trans (Nat.le_max_left _ _) (ih _ _)
      · exact ih _ _

theorem body_self (best run : Nat) (cs : List Char)
    (reads : ∀ c ∈ cs, c ≠ quote → ∀ read rest, step read (c :: rest) = some (.inl (c :: read), rest))
    (few : (cs.foldl (countRun quote) (best, run)).1 ≤ allowed) : Body step quote allowed run cs cs := by
  induction cs generalizing best run with
  | nil => exact .nil run
  | cons c cs ih =>
      have later := fun d member => reads d (List.mem_cons_of_mem c member)
      rw [List.foldl_cons, countRun] at few
      split at few
      · rename_i same
        subst same
        have counted := le_foldl_countRun c (max best (run + 1)) (run + 1) cs
        exact .quote (by omega) (ih _ _ later few)
      · rename_i other
        have step := reads c (List.mem_cons_self ..) other
        exact @Body.piece _ _ _ _ c c [] cs cs other step (ih _ _ later few)

theorem literalStep_printed {c : Char} (printed : isCommentChar c = true) (own : c ≠ '\'') (read rest : List Char) :
    literalStep read (c :: rest) = some (.inl (c :: read), rest) := by
  have literal : isLiteralChar c = true := by simp [isLiteralChar, printed, own]
  simp [literalStep, literal]

theorem longLiteralStep_printed {c : Char} (printed : isCommentChar c = true) (own : c ≠ '\'')
    (read rest : List Char) : longLiteralStep read (c :: rest) = some (.inl (c :: read), rest) := by
  have literal : isLiteralChar c = true := by simp [isLiteralChar, printed, own]
  simp [longLiteralStep, literal]

/-! ## Styles -/

theorem styleOf_literal (style : styleOf cs = .literal) :
    cs.any isCode = false ∧ longestRun '\'' cs = 0 ∧ cs.contains '\n' = false := by
  unfold styleOf at style
  grind

theorem styleOf_longLiteral (style : styleOf cs = .longLiteral) :
    cs.any isCode = false ∧ longestRun '\'' cs ≤ 2 := by
  unfold styleOf at style
  grind

theorem body_literal (style : styleOf cs = .literal) : Body literalStep '\'' 0 0 cs cs := by
  obtain ⟨codes, runs, lines⟩ := styleOf_literal style
  refine body_self 0 0 cs (fun c member own => ?_) (Nat.le_of_eq runs)
  refine literalStep_printed (isCommentChar_of_not_isCode ?_ ?_) own
  · simpa using List.any_eq_false.1 codes c member
  · rintro rfl
    simp [member] at lines

theorem body_longLiteral (style : styleOf cs = .longLiteral) : Body longLiteralStep '\'' 2 0 cs cs := by
  obtain ⟨codes, runs⟩ := styleOf_longLiteral style
  refine body_self 0 0 cs (fun c member own read rest => ?_) runs
  by_cases newline : c = '\n'
  · subst newline
    rfl
  · refine longLiteralStep_printed (isCommentChar_of_not_isCode ?_ newline) own read rest
    simpa using List.any_eq_false.1 codes c member

/-! ## Whole strings -/

def Unquoted (rest : List Char) : Prop := rest.head? ≠ some '"' ∧ rest.head? ≠ some '\''

theorem unquoted_cons {c : Char} (double : c ≠ '"') (single : c ≠ '\'') (tail : List Char) : Unquoted (c :: tail) :=
  ⟨by simpa using double, by simpa using single⟩

theorem Body.head_ne (body : Body step quote 0 run text cs) : text.head? ≠ some quote := by
  cases body with
  | nil => simp
  | quote few => exact absurd few (Nat.not_lt_zero _)
  | piece other => simpa using other

theorem string_short (inside : text.head? ≠ some quote) (behind : rest.head? ≠ some quote) :
    string (quote :: (text ++ quote :: rest)) = shortString (quote :: (text ++ quote :: rest)) := by
  have notThree : ∀ tail, text ++ quote :: rest ≠ quote :: quote :: tail := by
    intro tail eq
    cases text with
    | nil => simp_all
    | cons c text => simp_all
  unfold string
  split
  · rename_i tail eq
    obtain ⟨rfl, eq⟩ := List.cons.inj eq
    exact absurd eq (notThree tail)
  · rename_i tail eq
    obtain ⟨rfl, eq⟩ := List.cons.inj eq
    exact absurd eq (notThree tail)
  · rfl

theorem withoutNewline_leadingNewline (single : cs.contains '\n' = false → newline text = none) :
    string.withoutNewline (leadingNewline cs ++ text) = text := by
  unfold leadingNewline
  split
  · rfl
  · rename_i lines
    have unbroken := single (by simpa using lines)
    simp only [List.nil_append, string.withoutNewline, unbroken]

theorem newline_basicBody {newlines : Bool} (single : cs.contains '\n' = false) :
    newline (basicBody newlines allowed run cs ++ '"' :: rest) = none := by
  cases cs with
  | nil => rfl
  | cons c cs =>
      have other : c ≠ '\n' := by
        rintro rfl
        simp at single
      unfold basicBody
      split
      · split <;> rfl
      · have written := written_escaped newlines c
        generalize escaped newlines c = text at written
        cases written with
        | plain printed =>
            refine newline_of_head (by simpa using other) ?_
            rintro carriage
            cases carriage
            cases printed
        | lineEnd _ same => exact absurd same other
        | escape => rfl

theorem newline_literal (codes : cs.any isCode = false) (single : cs.contains '\n' = false) :
    newline (cs ++ '\'' :: rest) = none := by
  cases cs with
  | nil => rfl
  | cons c cs =>
      refine newline_of_head ?_ ?_
      · rintro feed
        cases feed
        simp at single
      · rintro carriage
        cases carriage
        simp [isCode] at codes

theorem string_text (s : String) (behind : Unquoted rest) : string (Printer.text s ++ rest) = some (s, rest) := by
  obtain ⟨double, single⟩ := behind
  cases style : styleOf s.toList with
  | basic =>
      have body : Body basicStep '"' 0 0 (basicBody false 0 0 s.toList) s.toList :=
        body_basicBody 0 s.toList (fun _ _ read rest written own => basicStep_written written own read rest)
          fun _ _ => rfl
      have read := (body.yields_short (fun _ _ => rfl) [] rest).iterate
      have short := string_short body.head_ne double
      rw [List.reverse_nil, List.nil_append, String.ofList_toList] at read
      simpa [Printer.text, style, shortString, read] using short
  | literal =>
      have body := body_literal style
      have read := (body.yields_short (fun _ _ => rfl) [] rest).iterate
      have short := string_short body.head_ne single
      rw [List.reverse_nil, List.nil_append, String.ofList_toList] at read
      simpa [Printer.text, style, shortString, read] using short
  | longBasic =>
      have body : Body longBasicStep '"' 2 0 (basicBody true 2 0 s.toList) s.toList :=
        body_basicBody 0 s.toList (fun _ _ read rest written own => longBasicStep_written written own read rest)
          fun _ _ => rfl
      have read := (body.yields_long (Nat.zero_le 2) (fun _ _ => rfl) double []).iterate
      have lines : string.withoutNewline (leadingNewline s.toList ++
          (basicBody true 2 0 s.toList ++ '"' :: '"' :: '"' :: rest)) = _ :=
        withoutNewline_leadingNewline newline_basicBody
      simp only [List.replicate_zero, List.reverse_nil, List.nil_append, String.ofList_toList] at read
      simpa [Printer.text, style, string, lines, List.replicate_succ] using read
  | longLiteral =>
      have body := body_longLiteral style
      have read := (body.yields_long (Nat.zero_le 2) (fun _ _ => rfl) single []).iterate
      have lines : string.withoutNewline (leadingNewline s.toList ++
          (s.toList ++ '\'' :: '\'' :: '\'' :: rest)) = _ :=
        withoutNewline_leadingNewline (newline_literal (styleOf_longLiteral style).1)
      simp only [List.replicate_zero, List.reverse_nil, List.nil_append, String.ofList_toList] at read
      simpa [Printer.text, style, string, lines, List.replicate_succ] using read

end Emplace.Toml
