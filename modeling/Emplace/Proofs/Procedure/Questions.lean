import Emplace.Procedure

/-!
# What procedures ask

A procedure is judged by the questions it may ask, whatever it is answered. `Only` looks at each question by itself,
`Keeps` at each in view of everything that was asked before, and `Always` at all of them together with the result.
-/

namespace Emplace

structure Asked (I : Interface) where
  step : I.Step
  answer : I.Answer step

namespace Procedure

variable {I : Interface} {ε α β : Type}

instance : LawfulMonad (Procedure I) := .mk' _ andThen_done (fun _ _ => rfl) andThen_assoc

def onSuccess (f : α → Fallible I ε β) : Except ε α → Procedure I (Except ε β)
  | .ok a => (f a).run
  | .error e => done (.error e)

@[simp] theorem onSuccess_ok (f : α → Fallible I ε β) (a : α) : onSuccess f (.ok a) = (f a).run := rfl

@[simp] theorem onSuccess_error (f : α → Fallible I ε β) (e : ε) : onSuccess f (.error e) = done (.error e) := rfl

theorem run_bind (x : Fallible I ε α) (f : α → Fallible I ε β) : (x >>= f).run = x.run.andThen (onSuccess f) := by
  refine congrArg (andThen x.run) (funext fun outcome => ?_)
  cases outcome <;> rfl

theorem run_bind_pure (x : Fallible I ε α) (f : α → β) :
    (x >>= fun a => (pure (f a) : Fallible I ε β)).run = x.run.andThen fun outcome => done (outcome.map f) := by
  rw [run_bind]
  refine congrArg (andThen x.run) (funext fun outcome => ?_)
  cases outcome <;> rfl

def Only (kind : I.Step → Prop) : Procedure I α → Prop
  | done _ => True
  | ask s next => kind s ∧ ∀ answer, (next answer).Only kind

variable {kind kind' : I.Step → Prop}

theorem Only.andThen {p : Procedure I α} {f : α → Procedure I β} (first : p.Only kind)
    (rest : ∀ a, (f a).Only kind) : (p.andThen f).Only kind := by
  induction p with
  | done a => exact rest a
  | ask s next ih => exact ⟨first.1, fun answer => ih answer (first.2 answer)⟩

theorem Only.bind {x : Fallible I ε α} {f : α → Fallible I ε β} (first : x.run.Only kind)
    (rest : ∀ a, (f a).run.Only kind) : (x >>= f).run.Only kind := by
  rw [run_bind]
  refine first.andThen fun outcome => ?_
  cases outcome with
  | ok a => exact rest a
  | error e => trivial

theorem Only.mono {p : Procedure I α} (only : p.Only kind) (weaker : ∀ s, kind s → kind' s) : p.Only kind' := by
  induction p with
  | done a => trivial
  | ask s next ih => exact ⟨weaker s only.1, fun answer => ih answer (only.2 answer)⟩

theorem Only.foldlM {γ : Type} {f : β → γ → Procedure I β} (each : ∀ b c, (f b c).Only kind) (start : β)
    (list : List γ) : (list.foldlM f start).Only kind := by
  induction list generalizing start with
  | nil => trivial
  | cons c list ih => exact (each start c).andThen fun b => ih b

theorem Only.mapM {γ : Type} {f : γ → Procedure I β} (each : ∀ c, (f c).Only kind) (list : List γ) :
    (list.mapM f).Only kind := by
  unfold List.mapM
  generalize [] = results
  induction list generalizing results with
  | nil => trivial
  | cons c list ih => exact (each c).andThen fun b => ih (b :: results)

/-- Every question that may be asked follows a rule in view of what was asked before. -/
def Keeps (rule : List (Asked I) → I.Step → Prop) : List (Asked I) → Procedure I α → Prop
  | _, done _ => True
  | past, ask s next => rule past s ∧ ∀ answer, (next answer).Keeps rule (past ++ [⟨s, answer⟩])

variable {rule : List (Asked I) → I.Step → Prop} {past : List (Asked I)}

theorem keeps_done (a : α) : (done a : Procedure I α).Keeps rule past := trivial

theorem keeps_ask_iff {s : I.Step} {next : I.Answer s → Procedure I α} :
    (ask s next).Keeps rule past ↔ rule past s ∧ ∀ answer, (next answer).Keeps rule (past ++ [⟨s, answer⟩]) := Iff.rfl

theorem Keeps.andThen_of_only {p : Procedure I α} {f : α → Procedure I β} (first : p.Only kind)
    (always : ∀ past s, kind s → rule past s) (rest : ∀ more a, (f a).Keeps rule (past ++ more)) :
    (p.andThen f).Keeps rule past := by
  induction p generalizing past with
  | done a => simpa using rest [] a
  | ask s next ih =>
      refine ⟨always past s first.1, fun answer => ih answer (first.2 answer) fun more a => ?_⟩
      simpa using rest (⟨s, answer⟩ :: more) a

theorem Keeps.of_only {p : Procedure I α} (only : p.Only kind) (always : ∀ past s, kind s → rule past s) :
    p.Keeps rule past := by
  rw [← andThen_done p]
  exact Keeps.andThen_of_only only always fun _ _ => trivial

theorem Keeps.andThen {p : Procedure I α} {f : α → Procedure I β} (first : p.Keeps rule past)
    (rest : ∀ past a, (f a).Keeps rule past) : (p.andThen f).Keeps rule past := by
  induction p generalizing past with
  | done a => exact rest past a
  | ask s next ih => exact ⟨first.1, fun answer => ih answer (first.2 answer)⟩

/-- Whatever comes as answers, what was asked and what it came to are as required. -/
def Always (post : List (Asked I) → α → Prop) : Procedure I α → Prop
  | done a => post [] a
  | ask s next => ∀ answer, (next answer).Always fun log a => post (⟨s, answer⟩ :: log) a

variable {post mid : List (Asked I) → α → Prop}

theorem always_done_iff {a : α} : (done a : Procedure I α).Always post ↔ post [] a := Iff.rfl

theorem always_ask_iff {s : I.Step} {next : I.Answer s → Procedure I α} :
    (ask s next).Always post ↔ ∀ answer, (next answer).Always fun log a => post (⟨s, answer⟩ :: log) a := Iff.rfl

theorem Always.mono {p : Procedure I α} (always : p.Always mid) (weaker : ∀ log a, mid log a → post log a) :
    p.Always post := by
  induction p generalizing mid post with
  | done a => exact weaker [] a always
  | ask s next ih => exact fun answer => ih answer (always answer) fun log a => weaker (⟨s, answer⟩ :: log) a

theorem Always.andThen {p : Procedure I α} {f : α → Procedure I β} {post : List (Asked I) → β → Prop}
    (first : p.Always mid) (rest : ∀ log a, mid log a → (f a).Always fun more b => post (log ++ more) b) :
    (p.andThen f).Always post := by
  induction p generalizing mid post with
  | done a => exact rest [] a first
  | ask s next ih =>
      exact fun answer => ih answer (first answer) fun log a reached => rest (⟨s, answer⟩ :: log) a reached

theorem Always.map {p : Procedure I α} {f : α → β} {post : List (Asked I) → β → Prop}
    (always : p.Always fun log a => post log (f a)) : (p.andThen fun a => done (f a)).Always post := by
  refine always.andThen fun log a reached => ?_
  rwa [always_done_iff, List.append_nil]

theorem Always.of_only {p : Procedure I α} (only : p.Only kind) :
    p.Always fun log _ => ∀ entry ∈ log, kind entry.step := by
  induction p with
  | done a => simp [always_done_iff]
  | ask s next ih =>
      exact fun answer => (ih answer (only.2 answer)).mono fun log _ each => List.forall_mem_cons.2 ⟨only.1, each⟩

theorem Keeps.andThen_of_always {p : Procedure I α} {f : α → Procedure I β} (first : p.Keeps rule past)
    (always : p.Always mid) (rest : ∀ log a, mid log a → (f a).Keeps rule (past ++ log)) :
    (p.andThen f).Keeps rule past := by
  induction p generalizing past mid with
  | done a => simpa using rest [] a always
  | ask s next ih =>
      refine ⟨first.1, fun answer => ih answer (first.2 answer) (always answer) fun log a reached => ?_⟩
      simpa using rest (⟨s, answer⟩ :: log) a reached

/-- Some answers lead a procedure through these questions to this end. -/
inductive Reaches : Procedure I α → List (Asked I) → α → Prop
  | done (a : α) : Reaches (done a) [] a
  | ask {s : I.Step} {next : I.Answer s → Procedure I α} {log : List (Asked I)} {a : α} (answer : I.Answer s)
    (rest : Reaches (next answer) log a) : Reaches (ask s next) (⟨s, answer⟩ :: log) a

theorem Reaches.andThen {p : Procedure I α} {f : α → Procedure I β} {log more : List (Asked I)} {a : α} {b : β}
    (first : p.Reaches log a) (rest : (f a).Reaches more b) : (p.andThen f).Reaches (log ++ more) b := by
  induction first with
  | done a => exact rest
  | ask answer _ ih => exact .ask answer (ih rest)

end Procedure

end Emplace
