/-!
# Procedures

A procedure is a request as a tree of single steps: it asks its surroundings one question at a time and goes on
from each answer. The surroundings decide when a step happens, so several procedures can be interleaved step by
step, and what it does: `run` plays a procedure in any monad that answers the questions.
-/

namespace Emplace

structure Interface where
  Step : Type
  Answer : Step → Type

/-- A computation that asks questions of an interface. -/
inductive Procedure (I : Interface) (α : Type) : Type
  | done (a : α)
  | ask (step : I.Step) (next : I.Answer step → Procedure I α)

namespace Procedure

variable {I J : Interface} {α β γ : Type}

instance [Inhabited α] : Inhabited (Procedure I α) := ⟨.done default⟩

def andThen : Procedure I α → (α → Procedure I β) → Procedure I β
  | .done a, f => f a
  | .ask step next, f => .ask step fun answer => (next answer).andThen f

instance : Monad (Procedure I) where
  pure := .done
  bind := andThen

def step (s : I.Step) : Procedure I (I.Answer s) := .ask s .done

def run {m : Type → Type} [Monad m] (answer : (s : I.Step) → m (I.Answer s)) :
    Procedure I α → m α
  | .done a => pure a
  | .ask s next => answer s >>= fun a => run answer (next a)

def through (answer : (s : I.Step) → Procedure J (I.Answer s)) (p : Procedure I α) :
    Procedure J α :=
  p.run answer

abbrev Fallible (I : Interface) (ε : Type) := ExceptT ε (Procedure I)

@[simp] theorem done_andThen (a : α) (f : α → Procedure I β) : (done a).andThen f = f a := rfl

@[simp] theorem ask_andThen (s : I.Step) (next : I.Answer s → Procedure I α)
    (f : α → Procedure I β) :
    (ask s next).andThen f = ask s fun answer => (next answer).andThen f := rfl

theorem andThen_done (p : Procedure I α) : p.andThen done = p := by
  induction p with
  | done a => rfl
  | ask s next ih => simp [ih]

theorem andThen_assoc (p : Procedure I α) (f : α → Procedure I β) (g : β → Procedure I γ) :
    (p.andThen f).andThen g = p.andThen fun a => (f a).andThen g := by
  induction p with
  | done a => rfl
  | ask s next ih => simp [ih]

end Procedure

end Emplace
