import Emplace.Device.Exchange
import Emplace.Device.Invoke
import Emplace.Http.Address
import Emplace.Http.MediaType
import Emplace.Http.Target

/-!
# Routes of a device

What a device serves to local callers and to peers. Answers are JSON under `success`, except that a forwarded
execution carries sealed bytes both ways. Only callers on the host itself may invoke a service; whether a request
is well formed is decided before who sent it.
-/

namespace Emplace.Http

structure Inbound where
  method : String
  uri : String
  contentType : Option String
  caller : Ip
  body : Bytes

inductive Body
  | empty
  | text (s : String)
  | json (value : Json)
  | octets (bytes : Bytes)
  deriving Inhabited

structure Outbound where
  status : Nat
  contentType : Option String
  allow : Option String
  body : Body
  deriving Inhabited

def plainType : String := "text/plain; charset=utf-8"

def jsonType : String := "application/json"

def octetType : String := "application/octet-stream"

def inWords (status : Nat) (s : String) : Outbound := ⟨status, some plainType, none, .text s⟩

def inJson (status : Nat) (value : Json) : Outbound := ⟨status, some jsonType, none, .json value⟩

def success (data : Json) : Outbound :=
  inJson 200 (.object [("success", .flag true), ("data", data)])

def refusal (status : Nat) (message kind : String) : Outbound :=
  inJson status (.object [("success", .flag false), ("error", .text message), ("kind", .text kind)])

def failure (e : Failure) : Outbound := refusal e.status e.text e.kind

def nonLocalCaller (caller : Ip) : Outbound :=
  refusal 403 s!"invocations are accepted from loopback only, not {caller.text}" "non_local_caller"

def notFound : Outbound := ⟨404, none, none, .empty⟩

def methodNotAllowed (allow : String) : Outbound := ⟨405, none, some allow, .empty⟩

def invalidUrl : Outbound := inWords 400 "Invalid URL"

/-- A body of any length is read, where servers refuse those above a limit of theirs with 413. What follows the texts of
422 and 400 on the wire, the complaint of the reader, is left out. -/
def jsonBody (shape : Shape α) (request : Inbound) : Except Outbound α :=
  if ((request.contentType.bind MediaType.ofText?).map MediaType.isJson).getD false then
    match shape.decode request.body with
    | .ok a => .ok a
    | .error .mismatched =>
      .error (inWords 422 "Failed to deserialize the JSON body into the target type")
    | .error _ => .error (inWords 400 "Failed to parse the request body as JSON")
  else .error (inWords 415 "Expected request with `Content-Type: application/json`")

inductive Route
  | ping
  | invoke (service : List Char)
  | execute
  | score (target : List Char)
  | peers
  | announce
  deriving DecidableEq, Repr

def segments? (path : List Char) : Option (List (List Char)) :=
  (Text.stripStart? "/api/v1/".toList path).map (Ip.splitOn '/')

def route? (path : List Char) : Option Route :=
  match (segments? path).map fun segments => (segments.map String.ofList, segments) with
  | some (["ping"], _) => some .ping
  | some (["services", _, "invoke"], [_, service, _]) => some (.invoke service)
  | some (["execute"], _) => some .execute
  | some (["score", _], [_, target]) => if target.isEmpty then none else some (.score target)
  | some (["peers"], _) => some .peers
  | some (["peers", "announce"], _) => some .announce
  | _ => none

def Route.isReading : Route → Bool
  | .ping | .score _ | .peers => true
  | .invoke _ | .execute | .announce => false

def answerScore (profile : Profile) (target : String) : Request Outbound := do
  let value ← Device.score target
  let stamp ← Request.call .stamp
  return success (DeviceScore.shape.write ⟨profile.id, value, stamp⟩)

def answerInvoke (profile : Profile) (service : String) (request : Inbound) : Request Outbound :=
  match jsonBody InvokeBody.shape request with
  | .error answer => return answer
  | .ok body =>
    if request.caller.isLocal then do
      match ← (Device.invoke profile (body.toRequest service)).run with
      | .ok response => return success (InvokeResponse.shape.write response)
      | .error e => return failure e
    else return nonLocalCaller request.caller

def answerExecute (profile : Profile) (request : Inbound) : Request Outbound := do
  match ← (Device.executeRemote profile request.body).run with
  | .ok payload => return ⟨200, some octetType, none, .octets payload⟩
  | .error e => return failure e

def answerAnnounce (request : Inbound) : Request Outbound :=
  match jsonBody Announcement.shape request with
  | .error answer => return answer
  | .ok announcement => do
    let accepted ← Device.observe announcement
    return success (.object [("accepted", .flag accepted)])

def answer (profile : Profile) (request : Inbound) : Route → Request Outbound
  | .ping => return success (.object [("device_id", .text profile.id)])
  | .invoke service =>
    match parameter? service with
    | some service => answerInvoke profile service request
    | none => return invalidUrl
  | .execute => answerExecute profile request
  | .score target =>
    match parameter? target with
    | some target => answerScore profile target
    | none => return invalidUrl
  | .peers => do return success (.list ((← Device.peers).map PeerEntry.shape.write))
  | .announce => answerAnnounce request

def Outbound.head (answer : Outbound) : Outbound := { answer with body := .empty }

/-- Answers a request. A request for the head of a readable route is answered without a body. -/
def handle (profile : Profile) (request : Inbound) : Request Outbound :=
  match route? (pathOf request.uri) with
  | none => return notFound
  | some route =>
    if route.isReading then
      if request.method = "GET" then answer profile request route
      else if request.method = "HEAD" then
        (fun (a : Outbound) => a.head) <$> answer profile request route
      else return methodNotAllowed "GET,HEAD"
    else if request.method = "POST" then answer profile request route
    else return methodNotAllowed "POST"

end Emplace.Http
