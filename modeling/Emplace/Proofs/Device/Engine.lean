import Emplace.Proofs.Device.Performance

namespace Emplace.Device

open Procedure Admission

structure Engine where
  profile : Profile
  tables : Tables
  now : Moment
  gauges : Metric → Except TelemetryError Float
  executor : String → List String → Except DispatchError ExecutionOutput
  /-- What any other call is answered, in view of all that was asked before. -/
  others : List (Asked interface) → (c : Call) → c.Answer

namespace Engine

def world (engine : Engine) : Surroundings interface
  | _, .access a => (engine.tables.apply engine.profile.id engine.now a).1
  | _, .call (.sample metric) => engine.gauges metric
  | _, .call (.execute executable args) => engine.executor executable args
  | past, .call c => engine.others past c

def transcript {α : Type} (engine : Engine) (p : Request α) : List (Asked interface) := p.transcript engine.world []

def result {α : Type} (engine : Engine) (p : Request α) : α := p.result engine.world []

def Holds (engine : Engine) (payload : Bytes) (x : RemoteExecution) : Prop :=
  ∃ plain, engine.profile.cipher.opened payload = .ok plain ∧ RemoteExecution.shape.decode plain = .ok x

def Lists (engine : Engine) (service requester : String) : Prop :=
  ∃ allowed, engine.tables.allowLists.get? service = some allowed ∧ requester ∈ allowed

def Agrees (engine : Engine) (service requester executable : String) : Prop :=
  engine.Lists service requester ∧ engine.tables.commands.get? service = some executable

structure Admits (engine : Engine) (x : RemoteExecution) : Prop where
  listed : engine.Lists x.serviceName x.requester
  registered : engine.tables.commands.get? x.serviceName = some x.executable
  clean : ∀ arg ∈ x.args, ¬CarriesOperator arg

theorem admits_iff_agrees {engine : Engine} {x : RemoteExecution} (clean : ∀ arg ∈ x.args, ¬CarriesOperator arg) :
    engine.Admits x ↔ engine.Agrees x.serviceName x.requester x.executable :=
  ⟨fun admits => ⟨admits.listed, admits.registered⟩, fun ⟨listed, registered⟩ => ⟨listed, registered, clean⟩⟩

theorem readExecution_eq_ok_iff {engine : Engine} {payload : Bytes} {x : RemoteExecution} :
    readExecution engine.profile.cipher payload = .ok x ↔ engine.Holds payload x := by
  unfold readExecution Holds
  cases engine.profile.cipher.opened payload with
  | error e => simp
  | ok plain =>
      simp only [Except.ok.injEq, exists_eq_left']
      cases RemoteExecution.shape.decode plain with
      | error e => exact iff_of_false (by rintro ⟨⟩) (by rintro ⟨⟩)
      | ok y =>
          change Except.ok y = _ ↔ _
          rw [Except.ok.injEq, Except.ok.injEq]

theorem permitted_eq_ok_iff_lists {engine : Engine} {service requester : String} :
    permitted service requester (engine.tables.allowLists.get? service) = .ok () ↔ engine.Lists service requester :=
  permitted_eq_ok_iff

def Answered (engine : Engine) (log : List (Asked interface)) : Prop :=
  ∀ entry ∈ log, ∃ past, entry = engine.world.asked past entry.step

variable {engine : Engine} {log : List (Asked interface)}

theorem answered_transcript {α : Type} (engine : Engine) (p : Request α) : engine.Answered (engine.transcript p) :=
  exists_asked_of_mem engine.world [] p

theorem Answered.found (answered : engine.Answered log) {service : String} {found : Option (List String)}
    (mem : ⟨Step.access (.allowList service), found⟩ ∈ log) : found = engine.tables.allowLists.get? service := by
  obtain ⟨_, eq⟩ := answered _ mem
  exact eq_of_heq (Asked.mk.inj eq).2

theorem Answered.registered (answered : engine.Answered log) {service : String} {registered : Option String}
    (mem : ⟨Step.access (.command service), registered⟩ ∈ log) :
    registered = engine.tables.commands.get? service := by
  obtain ⟨_, eq⟩ := answered _ mem
  exact eq_of_heq (Asked.mk.inj eq).2

theorem Answered.outcome (answered : engine.Answered log) {executable : String} {args : List String}
    {outcome : Except DispatchError ExecutionOutput} (mem : ⟨Step.call (.execute executable args), outcome⟩ ∈ log) :
    outcome = engine.executor executable args := by
  obtain ⟨_, eq⟩ := answered _ mem
  exact eq_of_heq (Asked.mk.inj eq).2

variable {service requester : String} {args : List String} {executable : String}

theorem world_of_looks (engine : Engine) {s : Step} (looks : s.Looks) (past other : List (Asked interface)) :
    engine.world past s = engine.world other s := by
  cases s with
  | access a => rfl
  | call c => cases c <;> first | rfl | exact looks.elim

theorem result_of_looks (engine : Engine) {α : Type} {p : Request α} (looks : p.Only Step.Looks)
    (past : List (Asked interface)) : p.result engine.world past = engine.result p := by
  unfold result
  generalize [] = start
  induction p generalizing past start with
  | done a => rfl
  | ask s next ih =>
      rw [result_ask, result_ask, engine.world_of_looks looks.1 past start]
      exact ih _ (looks.2 _) _ _

theorem transcript_of_looks (engine : Engine) {α : Type} {p : Request α} (looks : p.Only Step.Looks)
    (past : List (Asked interface)) : p.transcript engine.world past = engine.transcript p := by
  unfold transcript
  generalize [] = start
  induction p generalizing past start with
  | done a => rfl
  | ask s next ih =>
      have same := engine.world_of_looks looks.1 past start
      rw [transcript_ask, transcript_ask, Surroundings.asked, Surroundings.asked, same]
      exact congrArg _ (ih _ (looks.2 _) _ _)

theorem plays_of_looks (engine : Engine) {α : Type} {p : Request α} (looks : p.Only Step.Looks)
    (past : List (Asked interface)) : Plays engine.world past p (engine.transcript p) (engine.result p) :=
  ⟨engine.transcript_of_looks looks past, engine.result_of_looks looks past⟩

end Engine

end Emplace.Device
