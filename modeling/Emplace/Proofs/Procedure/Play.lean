import Emplace.Proofs.Procedure.Questions
import Mathlib.Logic.Function.Basic

/-!
# Playing procedures

Surroundings answer every question, each in view of all that was asked before. Among them a procedure leaves a
transcript and comes to a result (`Plays`), and every end that it may reach is one that it comes to among some
(`Reaches.plays`).
-/

namespace Emplace

abbrev Surroundings (I : Interface) := List (Asked I) → (s : I.Step) → I.Answer s

def Surroundings.asked {I : Interface} (world : Surroundings I) (past : List (Asked I)) (s : I.Step) : Asked I :=
  ⟨s, world past s⟩

open Classical in
/-- Like `world`, but after `past` the question of `entry` gets the answer of `entry`. -/
noncomputable def Surroundings.replying {I : Interface} (world : Surroundings I) (past : List (Asked I))
    (entry : Asked I) : Surroundings I :=
  Function.update world past (Function.update (world past) entry.step entry.answer)

theorem Surroundings.replying_self {I : Interface} (world : Surroundings I) (past : List (Asked I)) (entry : Asked I) :
    world.replying past entry past entry.step = entry.answer := by
  classical
  rw [replying, Function.update_self, Function.update_self]

theorem Surroundings.replying_of_ne {I : Interface} {world : Surroundings I} {past past' : List (Asked I)}
    {entry : Asked I} (other : past' ≠ past) : world.replying past entry past' = world past' := by
  classical
  exact Function.update_of_ne other ..

namespace Procedure

variable {I J : Interface} {ε α β γ : Type} (world : Surroundings I) (past : List (Asked I))

def transcript (world : Surroundings I) : List (Asked I) → Procedure I α → List (Asked I)
  | _, done _ => []
  | past, ask s next =>
    world.asked past s :: (next (world past s)).transcript world (past ++ [world.asked past s])

def result (world : Surroundings I) : List (Asked I) → Procedure I α → α
  | _, done a => a
  | past, ask s next => (next (world past s)).result world (past ++ [world.asked past s])

@[simp] theorem transcript_done (a : α) : (done a : Procedure I α).transcript world past = [] := rfl

@[simp] theorem result_done (a : α) : (done a : Procedure I α).result world past = a := rfl

@[simp] theorem transcript_ask (s : I.Step) (next : I.Answer s → Procedure I α) :
    (ask s next).transcript world past =
      world.asked past s :: (next (world past s)).transcript world (past ++ [world.asked past s]) := rfl

@[simp] theorem result_ask (s : I.Step) (next : I.Answer s → Procedure I α) :
    (ask s next).result world past = (next (world past s)).result world (past ++ [world.asked past s]) := rfl

theorem transcript_andThen (p : Procedure I α) (f : α → Procedure I β) :
    (p.andThen f).transcript world past =
      p.transcript world past ++
        (f (p.result world past)).transcript world (past ++ p.transcript world past) := by
  induction p generalizing past with
  | done a => simp
  | ask s next ih => simp [ih]

theorem result_andThen (p : Procedure I α) (f : α → Procedure I β) :
    (p.andThen f).result world past =
      (f (p.result world past)).result world (past ++ p.transcript world past) := by
  induction p generalizing past with
  | done a => simp
  | ask s next ih => simp [ih]

def Plays (p : Procedure I α) (log : List (Asked I)) (a : α) : Prop :=
  p.transcript world past = log ∧ p.result world past = a

section

variable {world past} {log more : List (Asked I)} {a : α} {b : β}

theorem Plays.andThen {p : Procedure I α} {f : α → Procedure I β} (first : Plays world past p log a)
    (rest : Plays world (past ++ log) (f a) more b) : Plays world past (p.andThen f) (log ++ more) b := by
  obtain ⟨rfl, rfl⟩ := first
  obtain ⟨rfl, rfl⟩ := rest
  exact ⟨transcript_andThen world past p f, result_andThen world past p f⟩

theorem Plays.map {p : Procedure I α} (plays : Plays world past p log a) (f : α → β) :
    Plays world past (p.andThen fun a => done (f a)) log (f a) := by
  rw [← List.append_nil log]
  exact plays.andThen ⟨rfl, rfl⟩

theorem Plays.ask {s : I.Step} {next : I.Answer s → Procedure I α} {answer : I.Answer s}
    (answered : world past s = answer) (rest : Plays world (past ++ [⟨s, answer⟩]) (next answer) log a) :
    Plays world past (Procedure.ask s next) (⟨s, answer⟩ :: log) a := by
  subst answered
  exact ⟨congrArg (List.cons _) rest.1, rest.2⟩

theorem Plays.congr {world' : Surroundings I} {p : Procedure I α} (plays : Plays world past p log a)
    (agree : ∀ more, world' (past ++ more) = world (past ++ more)) : Plays world' past p log a := by
  induction p generalizing past log with
  | done b => exact plays
  | ask s next ih =>
      obtain ⟨rfl, rfl⟩ := plays
      have answered : world' past s = world past s := by simpa using congrFun (agree []) s
      refine .ask answered (ih _ ⟨rfl, rfl⟩ fun more => ?_)
      rw [List.append_assoc]
      exact agree _

theorem Reaches.plays {p : Procedure I α} (reaches : p.Reaches log a) (world : Surroundings I)
    (past : List (Asked I)) : ∃ world', Plays world' past p log a := by
  induction reaches generalizing past with
  | done a => exact ⟨world, rfl, rfl⟩
  | @ask s next log a answer rest ih =>
      obtain ⟨later, plays⟩ := ih (past ++ [⟨s, answer⟩])
      refine ⟨_, .ask (later.replying_self past ⟨s, answer⟩) (plays.congr fun more => ?_)⟩
      -- Whatever is asked later has a longer past.
      exact Surroundings.replying_of_ne (by simp)

variable {x : Fallible I ε α} {f : α → Fallible I ε β}

theorem Plays.bind {b : Except ε β} (first : Plays world past x.run log (.ok a))
    (rest : Plays world (past ++ log) (f a).run more b) : Plays world past (x >>= f).run (log ++ more) b := by
  rw [run_bind]
  exact first.andThen rest

theorem Plays.bind_error {e : ε} (first : Plays world past x.run log (.error e)) :
    Plays world past (x >>= f).run log (.error e) := by
  have nothing : Plays world (past ++ log) (onSuccess f (.error e)) [] (.error e) := ⟨rfl, rfl⟩
  have whole := first.andThen nothing
  rwa [List.append_nil, ← run_bind] at whole

end

theorem Always.played {post : List (Asked I) → α → Prop} {p : Procedure I α} (always : p.Always post) :
    post (p.transcript world past) (p.result world past) := by
  induction p generalizing past post with
  | done a => exact always
  | ask s next ih => exact ih (world past s) _ (always (world past s))

theorem exists_asked_of_mem (p : Procedure I α) :
    ∀ entry ∈ p.transcript world past, ∃ before, entry = world.asked before entry.step := by
  induction p generalizing past with
  | done a => simp
  | ask s next ih =>
      intro entry mem
      rcases List.mem_cons.1 mem with rfl | mem
      · exact ⟨past, rfl⟩
      · exact ih (world past s) _ entry mem

@[simp] theorem through_done (answer : (s : I.Step) → Procedure J (I.Answer s)) (a : α) :
    (done a : Procedure I α).through answer = done a := rfl

@[simp] theorem through_ask (answer : (s : I.Step) → Procedure J (I.Answer s)) (s : I.Step)
    (next : I.Answer s → Procedure I α) :
    (ask s next).through answer = (answer s).andThen fun a => (next a).through answer := rfl

theorem through_andThen (answer : (s : I.Step) → Procedure J (I.Answer s)) (p : Procedure I α)
    (f : α → Procedure I β) :
    (p.andThen f).through answer = (p.through answer).andThen fun a => (f a).through answer := by
  induction p with
  | done a => rfl
  | ask s next ih => simp [ih, andThen_assoc]

end Procedure

end Emplace
