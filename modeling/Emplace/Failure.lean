import Emplace.Dispatch.Error
import Emplace.Text.Quoted

namespace Emplace

inductive InvalidCommand
  | emptyExecutable (service : String)
  | otherExecutable (executable service : String)
  | shellOperator (argument : String)
  | unreadable (cause : CipherError)
  | malformed (cause : Json.Fault)
  | described (text : String)
  deriving DecidableEq, Repr, Inhabited

def InvalidCommand.text : InvalidCommand → String
  | .emptyExecutable service => s!"empty executable for service {service}"
  | .otherExecutable executable service =>
    s!"executable {executable} does not match registration of {service}"
  | .shellOperator argument => s!"argument contains a shell operator: {Text.quoted argument}"
  | .unreadable cause => s!"unreadable payload: {(DispatchError.cipher cause).text}"
  | .malformed _ => "malformed payload"
  | .described text => text

inductive Failure
  | requesterNotAllowed (service requester : String)
  | serviceNotRegistered (service : String)
  | disallowedExecutable (executable : String)
  | invalidCommand (cause : InvalidCommand)
  | noEligibleTarget (service : String)
  | dispatchFailed (target : String) (cause : DispatchError)
  deriving DecidableEq, Repr, Inhabited

namespace Failure

def text : Failure → String
  | .requesterNotAllowed service requester =>
    s!"requester {requester} is not allowed to invoke {service}"
  | .serviceNotRegistered service => s!"service not registered: {service}"
  | .disallowedExecutable executable => s!"executable is not allowed: {executable}"
  | .invalidCommand cause => s!"invalid command: {cause.text}"
  | .noEligibleTarget service => s!"no eligible target for service: {service}"
  | .dispatchFailed target cause => s!"dispatch to {target} failed: {cause.text}"

def kind : Failure → String
  | .requesterNotAllowed .. => "requester_not_allowed"
  | .serviceNotRegistered _ => "service_not_registered"
  | .disallowedExecutable _ => "disallowed_executable"
  | .invalidCommand _ => "invalid_command"
  | .noEligibleTarget _ => "no_eligible_target"
  | .dispatchFailed .. => "dispatch_failed"

def isAdmission : Failure → Bool
  | .requesterNotAllowed .. | .serviceNotRegistered _ | .disallowedExecutable _
  | .invalidCommand _ => true
  | .noEligibleTarget _ | .dispatchFailed .. => false

def status : Failure → Nat
  | .requesterNotAllowed .. => 403
  | .serviceNotRegistered _ => 404
  | .disallowedExecutable _ => 422
  | .invalidCommand _ => 400
  | .noEligibleTarget _ => 503
  | .dispatchFailed .. => 502

def cause? : Failure → Option DispatchError
  | .dispatchFailed _ cause => some cause
  | _ => none

end Failure

end Emplace
