import Emplace.Proofs.Device.Payloads
import Emplace.Proofs.Device.Steps
import Emplace.Proofs.Procedure.Play

namespace Emplace.Device

open Procedure Admission

structure Ran where
  executable : String
  args : List String
  outcome : Except DispatchError ExecutionOutput

def ran? : Asked interface → Option Ran
  | ⟨.call (.execute executable args), outcome⟩ => some ⟨executable, args, outcome⟩
  | _ => none

def sends : Asked interface → Bool
  | ⟨.call (.send ..), _⟩ => true
  | _ => false

inductive Performance (profile : Profile) (x : RemoteExecution) :
    List (Asked interface) → Except Failure Bytes → Prop
  | refused {found : Option (List String)} {e : Failure}
    (refusal : permitted x.serviceName x.requester found = .error e) :
    Performance profile x [⟨Step.access (.allowList x.serviceName), found⟩] (.error e)
  | unverified {found : Option (List String)} {registered : Option String} {e : Failure}
    (listed : permitted x.serviceName x.requester found = .ok ())
    (refusal : verified x.serviceName x.executable registered = .error e) :
    Performance profile x
      [⟨Step.access (.allowList x.serviceName), found⟩, ⟨Step.access (.command x.serviceName), registered⟩] (.error e)
  | unclean {found : Option (List String)} {registered : Option String} {e : Failure}
    (listed : permitted x.serviceName x.requester found = .ok ())
    (same : verified x.serviceName x.executable registered = .ok ()) (refusal : checkArgs x.args = .error e) :
    Performance profile x
      [⟨Step.access (.allowList x.serviceName), found⟩, ⟨Step.access (.command x.serviceName), registered⟩] (.error e)
  | failed {found : Option (List String)} {registered : Option String} {e : DispatchError}
    (listed : permitted x.serviceName x.requester found = .ok ())
    (same : verified x.serviceName x.executable registered = .ok ()) (clean : checkArgs x.args = .ok ()) :
    Performance profile x
      [⟨Step.access (.allowList x.serviceName), found⟩, ⟨Step.access (.command x.serviceName), registered⟩,
        ⟨Step.call (.execute x.executable x.args), Except.error e⟩] (.error (.dispatchFailed profile.id e))
  | answered {found : Option (List String)} {registered : Option String} {output : ExecutionOutput} {nonce : Gcm.Nonce}
    {reply plain : Bytes} (listed : permitted x.serviceName x.requester found = .ok ())
    (same : verified x.serviceName x.executable registered = .ok ()) (clean : checkArgs x.args = .ok ())
    (opening : profile.cipher.opened reply = .ok plain) (decoding : ExecutionOutput.shape.decode plain = .ok output) :
    Performance profile x
      [⟨Step.access (.allowList x.serviceName), found⟩, ⟨Step.access (.command x.serviceName), registered⟩,
        ⟨Step.call (.execute x.executable x.args), Except.ok output⟩, ⟨Step.call .nonce, nonce⟩] (.ok reply)

theorem perform_performance (profile : Profile) (x : RemoteExecution) :
    (perform profile x).run.Always (Performance profile x) := by
  simp only [perform, run_bind, run_checkRequester, ask_andThen, done_andThen, always_ask_iff]
  intro found
  cases listed : permitted x.serviceName x.requester found with
  | error e => exact .refused listed
  | ok =>
      simp only [onSuccess_ok, run_bind, run_verify, ask_andThen, done_andThen, always_ask_iff]
      intro registered
      cases same : verified x.serviceName x.executable registered with
      | error e => exact .unverified listed same
      | ok =>
          simp only [onSuccess_ok, run_bind, FallibleRequest.run_settle, done_andThen]
          cases clean : checkArgs x.args with
          | error e => exact .unclean listed same clean
          | ok =>
              intro outcome
              cases outcome with
              | error e => exact .failed listed same clean
              | ok output =>
                  intro nonce
                  obtain ⟨reply, plain, sealing, opening, decoding⟩ := profile.cipher.sealed_output nonce output
                  change Performance profile x _ ((profile.cipher.sealed nonce _).mapError fun e => _)
                  rw [sealing]
                  exact .answered listed same clean opening decoding

inductive Receipt (profile : Profile) (payload : Bytes) : List (Asked interface) → Except Failure Bytes → Prop
  | unread {e : Failure} (fault : readExecution profile.cipher payload = .error e) :
    Receipt profile payload [] (.error e)
  | read {x : RemoteExecution} {log : List (Asked interface)} {answer : Except Failure Bytes}
    (reading : readExecution profile.cipher payload = .ok x) (performance : Performance profile x log answer) :
    Receipt profile payload log answer

theorem executeRemote_receipt (profile : Profile) (payload : Bytes) :
    (executeRemote profile payload).run.Always (Receipt profile payload) := by
  rw [run_executeRemote]
  cases reading : readExecution profile.cipher payload with
  | error e => exact .unread reading
  | ok x => exact (perform_performance profile x).mono fun _ _ => .read reading

def Performed (profile : Profile) (log : List (Asked interface)) (answer : Except Failure Bytes) : Prop :=
  log.countP sends = 0 ∧ (log.filterMap ran?).length ≤ 1 ∧
    ∀ reply, answer = .ok reply → ∃ run output plain, log.filterMap ran? = [run] ∧ run.outcome = .ok output ∧
      profile.cipher.opened reply = .ok plain ∧ ExecutionOutput.shape.decode plain = .ok output

theorem Performance.performed {profile : Profile} {x : RemoteExecution} {log : List (Asked interface)}
    {answer : Except Failure Bytes} (performance : Performance profile x log answer) :
    Performed profile log answer := by
  cases performance with
  | refused | unverified | unclean => exact ⟨rfl, Nat.zero_le 1, fun _ eq => by cases eq⟩
  | failed => exact ⟨rfl, Nat.le_refl 1, fun _ eq => by cases eq⟩
  | answered _ _ _ opening decoding =>
      refine ⟨rfl, Nat.le_refl 1, fun _ eq => ?_⟩
      cases eq
      exact ⟨_, _, _, rfl, rfl, opening, decoding⟩

theorem Receipt.performed {profile : Profile} {payload : Bytes} {log : List (Asked interface)}
    {answer : Except Failure Bytes} (receipt : Receipt profile payload log answer) : Performed profile log answer := by
  cases receipt with
  | unread => exact ⟨rfl, Nat.zero_le 1, fun _ eq => by cases eq⟩
  | read _ performance => exact performance.performed

end Emplace.Device
