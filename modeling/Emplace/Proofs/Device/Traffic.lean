import Emplace.Device.Exchange
import Emplace.Proofs.Device.Steps
import Emplace.Proofs.Peers.History
import Mathlib.Logic.Function.Basic

/-!
# Traffic at a device

Any number of requests in flight on one device. A request arrives under a ticket of its own; from then on each event is
one step of one request, in any order: an access that the tables answer at a moment, or a call that its capability
answers in any way. A request that is never taken up again was given up by its caller.
-/

namespace Emplace.Device

open Procedure

inductive Task
  | register (service executable : String)
  | store (service : String) (requesters : List String)
  | apply (d : ServiceDescriptor)
  | reload (applied : Applied) (scan : Except Files.WalkError (List ServiceDescriptor))
  | observe (a : Announcement)
  | expire (window : Duration)
  | close
  | place (service requester : String)
  | invoke (request : InvokeRequest)
  | executeRemote (payload : Bytes)

def steps {α : Type} (p : Request α) : Request Unit := p.andThen fun _ => done ()

def Task.request (profile : Profile) : Task → Request Unit
  | .register service executable => steps (registerService service executable).run
  | .store service requesters => steps (storeRequesters service requesters)
  | .apply d => steps (applyDescriptor d).run
  | .reload applied scan => steps (Device.reload applied scan)
  | .observe a => steps (Device.observe a)
  | .expire window => steps (Request.access (.expire window))
  | .close => steps Device.close
  | .place service requester => steps (Device.place profile service requester).run
  | .invoke request => steps (Device.invoke profile request).run
  | .executeRemote payload => steps (Device.executeRemote profile payload).run

/-- A device with the requests in flight, each as the steps that it still has to take. -/
structure Traffic where
  tables : Tables
  pending : Nat → Option (Request Unit)

namespace Traffic

def idle : Traffic := ⟨.empty, fun _ => none⟩

def put (w : Traffic) (ticket : Nat) (p : Request Unit) : Nat → Option (Request Unit) :=
  Function.update w.pending ticket (some p)

theorem put_self (w : Traffic) (ticket : Nat) (p : Request Unit) : w.put ticket p ticket = some p :=
  Function.update_self ..

theorem put_of_ne {other ticket : Nat} (ne : other ≠ ticket) (w : Traffic) (p : Request Unit) :
    w.put ticket p other = w.pending other := Function.update_of_ne ne ..

def Each (w : Traffic) (kind : Nat → Request Unit → Prop) : Prop :=
  ∀ ticket p, w.pending ticket = some p → kind ticket p

theorem Each.put {w : Traffic} {kind : Nat → Request Unit → Prop} (each : w.Each kind) (tables : Tables) {ticket : Nat}
    {p : Request Unit} (this : kind ticket p) : Each ⟨tables, w.put ticket p⟩ kind := by
  intro other q pending
  by_cases same : other = ticket
  · subst same
    obtain rfl := Option.some.inj ((w.put_self other p).symm.trans pending)
    exact this
  · exact each other q ((w.put_of_ne same p).symm.trans pending)

def Allows (w : Traffic) (service requester : String) : Prop :=
  ∃ allowed, w.tables.allowLists.get? service = some allowed ∧ requester ∈ allowed

end Traffic

inductive Event
  | arrived (ticket : Nat) (task : Task)
  | acted (ticket : Nat) (now : Moment) (asked : Asked interface)

namespace Event

def of? (ticket : Nat) : Event → Option (Asked interface)
  | .acted other _ asked => if other = ticket then some asked else none
  | .arrived .. => none

def stored? (service : String) : Event → Option (List String)
  | .acted _ _ ⟨.access (.setAllowList name requesters), _⟩ => if service = name then some requesters else none
  | _ => none

def registered? (service : String) : Event → Option String
  | .acted _ _ ⟨.access (.setCommand name executable), _⟩ => if service = name then some executable else none
  | _ => none

def peerCall? : Event → Option (Moment × PeerTable.Call)
  | .acted _ now ⟨.access (.observe a), _⟩ => some (now, .observe a)
  | .acted _ now ⟨.access (.expire window), _⟩ => some (now, .expire window)
  | _ => none

end Event

inductive Next (profile : Profile) : Traffic → Event → Traffic → Prop
  | arrived {w : Traffic} {ticket : Nat} (task : Task) (fresh : w.pending ticket = none) :
    Next profile w (.arrived ticket task) ⟨w.tables, w.put ticket (task.request profile)⟩
  | accessed {w : Traffic} {ticket : Nat} {a : Access} {next : a.Answer → Request Unit} (now : Moment)
    (turn : w.pending ticket = some (ask (Step.access a) next)) :
    Next profile w (.acted ticket now ⟨.access a, (w.tables.apply profile.id now a).1⟩)
      ⟨(w.tables.apply profile.id now a).2, w.put ticket (next (w.tables.apply profile.id now a).1)⟩
  | called {w : Traffic} {ticket : Nat} {c : Call} {next : c.Answer → Request Unit} (now : Moment) (answer : c.Answer)
    (turn : w.pending ticket = some (ask (Step.call c) next)) :
    Next profile w (.acted ticket now ⟨.call c, answer⟩) ⟨w.tables, w.put ticket (next answer)⟩

/-- Events one after another, each with the state that it found. -/
inductive Run (profile : Profile) : Traffic → List (Traffic × Event) → Traffic → Prop
  | rest (w : Traffic) : Run profile w [] w
  | next {u v w : Traffic} {e : Event} {later : List (Traffic × Event)} (first : Next profile u e v)
    (run : Run profile v later w) : Run profile u ((u, e) :: later) w

variable {profile : Profile} {u v w : Traffic} {e : Event} {past front back : List (Traffic × Event)} {ticket : Nat}

theorem Run.append (before : Run profile u front v) (after : Run profile v back w) :
    Run profile u (front ++ back) w := by
  induction before with
  | rest u => exact after
  | next first run ih => exact .next first (ih after)

theorem Run.split (run : Run profile u (front ++ back) w) : ∃ v, Run profile u front v ∧ Run profile v back w := by
  induction front generalizing u with
  | nil => exact ⟨u, .rest u, run⟩
  | cons entry front ih =>
      cases run with
      | next first run =>
          obtain ⟨v, before, after⟩ := ih run
          exact ⟨v, .next first before, after⟩

theorem Run.before (run : Run profile u (front ++ (v, e) :: back) w) : Run profile u front v := by
  obtain ⟨x, earlier, later⟩ := run.split
  cases later with
  | next => exact earlier

theorem Run.access_answer {a : Access} {answer : a.Answer} {now : Moment}
    (run : Run profile u (front ++ (v, .acted ticket now ⟨Step.access a, answer⟩) :: back) w) :
    answer = (v.tables.apply profile.id now a).1 := by
  obtain ⟨x, -, later⟩ := run.split
  cases later with
  | next first _ =>
      cases first with
      | accessed => rfl

theorem Next.allowList (next : Next profile u e v) (service : String) :
    v.tables.allowLists.get? service = (e.stored? service).or (u.tables.allowLists.get? service) := by
  cases next with
  | arrived | called => rfl
  | @accessed _ a _ now =>
      cases a with
      | setAllowList name requesters =>
          simp only [Tables.apply, Admission.AllowLists.store, Roster.get?_insert, Event.stored?]
          split <;> rfl
      | _ => rfl

theorem Next.command (next : Next profile u e v) (service : String) :
    v.tables.commands.get? service = (e.registered? service).or (u.tables.commands.get? service) := by
  cases next with
  | arrived | called => rfl
  | @accessed _ a _ now =>
      cases a with
      | setCommand name executable =>
          simp only [Tables.apply, Roster.get?_insert, Event.registered?]
          split <;> rfl
      | _ => rfl

theorem Run.allowList (run : Run profile u past w) {service : String} {allowed : List String}
    (inForce : w.tables.allowLists.get? service = some allowed) :
    u.tables.allowLists.get? service = some allowed ∨ ∃ entry ∈ past, entry.2.stored? service = some allowed := by
  induction run with
  | rest w => exact .inl inForce
  | @next u v w e later first run ih =>
      rcases ih inForce with before | ⟨entry, mem, stored⟩
      · rw [first.allowList, Option.or_eq_some_iff] at before
        rcases before with stored | ⟨-, before⟩
        · exact .inr ⟨(u, e), List.mem_cons_self, stored⟩
        · exact .inl before
      · exact .inr ⟨entry, List.mem_cons_of_mem _ mem, stored⟩

theorem Run.command (run : Run profile u past w) {service executable : String}
    (inForce : w.tables.commands.get? service = some executable) :
    u.tables.commands.get? service = some executable ∨
      ∃ entry ∈ past, entry.2.registered? service = some executable := by
  induction run with
  | rest w => exact .inl inForce
  | @next u v w e later first run ih =>
      rcases ih inForce with before | ⟨entry, mem, registered⟩
      · rw [first.command, Option.or_eq_some_iff] at before
        rcases before with registered | ⟨-, before⟩
        · exact .inr ⟨(u, e), List.mem_cons_self, registered⟩
        · exact .inl before
      · exact .inr ⟨entry, List.mem_cons_of_mem _ mem, registered⟩

theorem Next.peers (next : Next profile u e v) {calls : List (Moment × PeerTable.Call)}
    (found : u.tables.peers = PeerTable.after profile.id calls) :
    v.tables.peers = PeerTable.after profile.id (calls ++ e.peerCall?.toList) := by
  have silent : u.tables.peers = PeerTable.after profile.id (calls ++ []) := by rw [List.append_nil, found]
  cases next with
  | arrived | called => exact silent
  | @accessed _ a _ now =>
      cases a with
      | observe a =>
          have taken := congrArg (fun t => (t.perform profile.id now (.observe a)).2) found
          exact taken.trans PeerTable.after_append_singleton.symm
      | expire window =>
          have dropped := congrArg (fun t => (t.perform profile.id now (.expire window)).2) found
          exact dropped.trans PeerTable.after_append_singleton.symm
      | _ => exact silent

theorem Run.peers_append (run : Run profile u past w) {calls : List (Moment × PeerTable.Call)}
    (found : u.tables.peers = PeerTable.after profile.id calls) :
    w.tables.peers = PeerTable.after profile.id (calls ++ past.filterMap fun entry => entry.2.peerCall?) := by
  induction run generalizing calls with
  | rest w => simpa using found
  | @next u v w e later first run ih =>
      have rest := ih (first.peers found)
      cases call : e.peerCall? <;> simpa [call] using rest

theorem Run.peers (run : Run profile .idle past w) :
    w.tables.peers = PeerTable.after profile.id (past.filterMap fun entry => entry.2.peerCall?) := by
  have atStart : Traffic.idle.tables.peers = PeerTable.after profile.id [] := rfl
  exact run.peers_append atStart

end Emplace.Device
