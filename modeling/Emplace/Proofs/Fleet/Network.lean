import Emplace.Device.Invoke
import Emplace.Http.Client
import Emplace.Proofs.Device.Performance
import Emplace.Proofs.Procedure.Play

/-!
# Devices on a network

Any number of devices, where an invocation on one may be forwarded to another. The steps of a request are those that a
device takes by itself, and handing sealed bytes to the network. The network may bring the bytes to any device, which
then executes them, and it may bring back the sealed reply of that device; otherwise the sender sees an attempt that
failed, as it always does when the device refused.
-/

namespace Emplace.Fleet

open Procedure Device

variable {n : Nat}

/-- What becomes of bytes that are handed to the network. -/
structure Fate (n : Nat) where
  receiver : Option (Fin n)
  handsBack : Bool
  /-- What the sender sees if none is. -/
  failure : { a : Http.Attempt // a.succeeded = false }
  delay : Duration

inductive Step (n : Nat)
  | device (i : Fin n) (s : Device.Step)
  | carry (address : String) (body : Bytes)

abbrev Step.Answer : Step n → Type
  | .device _ s => s.Answer
  | .carry .. => Fate n

abbrev interface (n : Nat) : Interface := ⟨Step n, Step.Answer⟩

def alone (i : Fin n) (s : Device.Step) : Procedure (interface n) s.Answer :=
  Procedure.step (I := interface n) (.device i s)

def Fate.attempt (fate : Fate n) : Except Failure Bytes → Http.Attempt
  | .ok reply => if fate.handsBack then .answered 200 reply else fate.failure
  | .error _ => fate.failure

def post (profiles : Fin n → Profile) (address : String) (body : Bytes) :
    Procedure (interface n) (Duration × Http.Attempt) :=
  ask (I := interface n) (.carry address body) fun (fate : Fate n) =>
    match fate.receiver with
    | none => done (fate.delay, fate.failure)
    | some j => ((executeRemote (profiles j) body).run.through (alone j)).andThen fun reply =>
        done (fate.delay, fate.attempt reply)

def carryOut (profiles : Fin n → Profile) (i : Fin n) : (s : Device.Step) → Procedure (interface n) s.Answer
  | .call (.send address payload cipher) =>
    (alone i (.call .nonce)).andThen fun nonce => Http.forward cipher nonce (post profiles address) address payload
  | s => alone i s

def invoke (profiles : Fin n → Profile) (i : Fin n) (request : InvokeRequest) :
    Procedure (interface n) (Except Failure InvokeResponse) :=
  (Device.invoke (profiles i) request).run.through (carryOut profiles i)

def onDevice (i : Fin n) (entry : Asked Device.interface) : Asked (interface n) := ⟨.device i entry.step, entry.answer⟩

def ran? : Asked (interface n) → Option (Fin n × Ran)
  | ⟨.device i s, answer⟩ => (Device.ran? ⟨s, answer⟩).map (i, ·)
  | _ => none

def handsOver : Asked (interface n) → Bool
  | ⟨.device _ s, answer⟩ => sends ⟨s, answer⟩
  | ⟨.carry .., _⟩ => true

def runs (log : List (Asked (interface n))) : List (Fin n × Ran) := log.filterMap ran?

def hops (log : List (Asked (interface n))) : Nat := log.countP handsOver

theorem runs_append (log more : List (Asked (interface n))) : runs (log ++ more) = runs log ++ runs more :=
  List.filterMap_append

theorem hops_append (log more : List (Asked (interface n))) : hops (log ++ more) = hops log + hops more :=
  List.countP_append

theorem runs_cons {entry : Asked (interface n)} (still : ran? entry = none) (log : List (Asked (interface n))) :
    runs (entry :: log) = runs log := List.filterMap_cons_none still

theorem runs_onDevice (i : Fin n) (log : List (Asked Device.interface)) :
    runs (log.map (onDevice i)) = (log.filterMap Device.ran?).map (i, ·) := by
  rw [runs, List.filterMap_map, List.map_filterMap]
  rfl

theorem hops_onDevice (i : Fin n) (log : List (Asked Device.interface)) :
    hops (log.map (onDevice i)) = log.countP sends := by
  rw [hops, List.countP_map]
  rfl

theorem Always.through_alone {α : Type} {post : List (Asked Device.interface) → α → Prop} {p : Request α} (i : Fin n)
    (always : p.Always post) :
    (p.through (alone i)).Always fun log a => ∃ own, log = own.map (onDevice i) ∧ post own a := by
  induction p generalizing post with
  | done a => exact ⟨[], rfl, always⟩
  | ask s next ih =>
      intro answer
      refine (ih answer (always answer)).mono ?_
      rintro log a ⟨own, rfl, reached⟩
      exact ⟨⟨s, answer⟩ :: own, rfl, reached⟩

theorem carryOut_of_looks (profiles : Fin n → Profile) (i : Fin n) {s : Device.Step} (looks : s.Looks) :
    carryOut profiles i s = alone i s := by
  cases s with
  | access a => rfl
  | call c => cases c <;> first | rfl | exact looks.elim

theorem through_carryOut_of_looks {α : Type} (profiles : Fin n → Profile) (i : Fin n) {p : Request α}
    (looks : p.Only Step.Looks) : p.through (carryOut profiles i) = p.through (alone i) := by
  induction p with
  | done a => rfl
  | ask s next ih =>
      simp only [through_ask, carryOut_of_looks profiles i looks.1]
      exact congrArg _ (funext fun answer => ih answer (looks.2 answer))

end Emplace.Fleet
