import Emplace.Proofs.Device.Traffic
import Emplace.Proofs.Http.Routes
import Emplace.Proofs.Procedure.Play
import Mathlib.Tactic.ByContra

namespace Emplace.Http

open Procedure Device

structure Announces (request : Inbound) (a : Announcement) : Prop where
  posted : request.method = "POST"
  path : pathOf request.uri = announcePath
  decodes : Announcement.shape.decode request.body = .ok a

def Heeds (request : Inbound) (s : Step) : Prop :=
  s.Unchanging ∨ ∃ a, s = .access (.observe a) ∧ Announces request a

variable {request : Inbound}

theorem decode_of_jsonBody {α : Type} {shape : Shape α} {a : α} (read : jsonBody shape request = .ok a) :
    shape.decode request.body = .ok a := by
  unfold jsonBody at read
  split at read
  · split at read
    · rename_i decoded
      rw [decoded, Except.ok.inj read]
    · cases read
    · cases read
  · cases read

theorem answerInvoke_unchanging (profile : Profile) (service : String) (request : Inbound) :
    (answerInvoke profile service request).Only Step.Unchanging := by
  unfold answerInvoke
  split
  · trivial
  · rename_i body read
    split
    · refine (invoke_unchanging profile (body.toRequest service)).andThen fun outcome => ?_
      cases outcome <;> trivial
    · trivial

theorem answerScore_unchanging (profile : Profile) (target : String) :
    (answerScore profile target).Only Step.Unchanging := by
  have scored : (score target).Only Step.Unchanging := (score_looks target).mono fun _ looks => looks.unchanging
  exact scored.andThen fun value => ⟨trivial, fun stamp => trivial⟩

theorem answerExecute_unchanging (profile : Profile) (request : Inbound) :
    (answerExecute profile request).Only Step.Unchanging := by
  refine (executeRemote_unchanging profile request.body).andThen fun outcome => ?_
  cases outcome <;> trivial

theorem answerAnnounce_heeds (posted : request.method = "POST") (path : pathOf request.uri = announcePath) :
    (answerAnnounce request).Only (Heeds request) := by
  unfold answerAnnounce
  split
  · trivial
  · rename_i a read
    exact ⟨.inr ⟨a, rfl, posted, path, decode_of_jsonBody read⟩, fun accepted => trivial⟩

theorem answer_heeds (profile : Profile) (request : Inbound) {route : Route}
    (announces : route = .announce → request.method = "POST" ∧ pathOf request.uri = announcePath) :
    (answer profile request route).Only (Heeds request) := by
  have heeds {p : Request Outbound} (only : p.Only Step.Unchanging) : p.Only (Heeds request) :=
    only.mono fun _ unchanging => .inl unchanging
  cases route with
  | ping => trivial
  | invoke service =>
      simp only [answer]
      cases parameter? service with
      | none => trivial
      | some service => exact heeds (answerInvoke_unchanging ..)
  | execute => exact heeds (answerExecute_unchanging ..)
  | score target =>
      simp only [answer]
      cases parameter? target with
      | none => trivial
      | some target => exact heeds (answerScore_unchanging ..)
  | peers => exact heeds ⟨fun _ _ _ => rfl, fun peers => trivial⟩
  | announce =>
      obtain ⟨posted, path⟩ := announces rfl
      exact answerAnnounce_heeds posted path

theorem handle_heeds (profile : Profile) (request : Inbound) : (handle profile request).Only (Heeds request) := by
  unfold handle
  split
  · trivial
  · rename_i route found
    split
    · rename_i reading
      have other : route ≠ .announce := by
        rintro rfl
        cases reading
      have answered := answer_heeds profile request fun same => (other same).elim
      split
      · exact answered
      · split
        · exact answered.andThen fun a => trivial
        · trivial
    · split
      · rename_i posted
        refine answer_heeds profile request ?_
        rintro rfl
        exact ⟨posted, route?_eq_announce_iff.1 found⟩
      · trivial

def refusalElsewhere (service : List Char) (request : Inbound) : Outbound :=
  match parameter? service with
  | none => invalidUrl
  | some _ =>
    match jsonBody InvokeBody.shape request with
    | .error answer => answer
    | .ok _ => nonLocalCaller request.caller

theorem answer_invoke_elsewhere (profile : Profile) (service : List Char) (elsewhere : request.caller.isLocal = false) :
    answer profile request (.invoke service) = done (refusalElsewhere service request) := by
  simp only [answer, refusalElsewhere]
  cases parameter? service with
  | none => rfl
  | some name =>
      simp only [answerInvoke]
      cases jsonBody InvokeBody.shape request with
      | error a => rfl
      | ok body =>
          simp only [elsewhere]
          rfl

theorem handle_invoke_elsewhere (profile : Profile) {service : List Char} (posted : request.method = "POST")
    (path : pathOf request.uri = invokePath service) (clear : '/' ∉ service) (elsewhere : ¬Loopback request.caller) :
    handle profile request = done (refusalElsewhere service request) := by
  have remote : request.caller.isLocal = false := by
    rw [← Bool.not_eq_true, isLocal_iff]
    exact elsewhere
  have route : route? (pathOf request.uri) = some (.invoke service) := by
    rw [path]
    exact route?_invokePath clear
  rw [handle, route]
  simp only [Route.isReading, posted]
  exact answer_invoke_elsewhere profile service remote

def served (profile : Profile) (tables : Tables) (requests : Nat → Option Inbound) : Traffic :=
  ⟨tables, fun ticket => (requests ticket).map fun request => steps (handle profile request)⟩

def OnlyNetwork (events : List (Traffic × Event)) : Prop :=
  ∀ entry ∈ events, ∀ ticket task, entry.2 ≠ .arrived ticket task

def Serves (requests : Nat → Option Inbound) (w : Traffic) : Prop :=
  w.Each fun ticket p => ∃ request, requests ticket = some request ∧ p.Only (Heeds request)

variable {profile : Profile} {tables : Tables} {requests : Nat → Option Inbound} {v w : Traffic} {e : Event}
  {past : List (Traffic × Event)}

theorem serves_served (profile : Profile) (tables : Tables) (requests : Nat → Option Inbound) :
    Serves requests (served profile tables requests) := by
  intro ticket p pending
  obtain ⟨request, found, rfl⟩ := Option.map_eq_some_iff.1 pending
  exact ⟨request, found, (handle_heeds profile request).andThen fun _ => trivial⟩

inductive Leaves (requests : Nat → Option Inbound) (localId : String) (e : Event) (t : Tables) : Tables → Prop
  | same : Leaves requests localId e t t
  | heard {ticket : Nat} {now : Moment} {request : Inbound} {a : Announcement}
    (own : e = .acted ticket now ⟨Step.access (.observe a), (t.peers.observe localId now a).1⟩)
    (found : requests ticket = some request) (announces : Announces request a) :
    Leaves requests localId e t { t with peers := (t.peers.observe localId now a).2 }

theorem Serves.next (serves : Serves requests v) (next : Next profile v e w)
    (network : ∀ ticket task, e ≠ .arrived ticket task) :
    Serves requests w ∧ Leaves requests profile.id e v.tables w.tables := by
  cases next with
  | arrived task fresh => exact (network _ task rfl).elim
  | @accessed ticket a next now turn =>
      obtain ⟨request, found, heeds, rest⟩ := serves ticket _ turn
      refine ⟨serves.put _ ⟨request, found, rest _⟩, ?_⟩
      rcases heeds with unchanging | ⟨b, same, announces⟩
      · rw [unchanging profile.id now v.tables]
        exact .same
      · cases same
        exact .heard rfl found announces
  | @called ticket c next now answer turn =>
      obtain ⟨request, found, heeds, rest⟩ := serves ticket _ turn
      exact ⟨serves.put _ ⟨request, found, rest answer⟩, .same⟩

theorem Serves.run (run : Run profile v past w) (serves : Serves requests v) (network : OnlyNetwork past) :
    Serves requests w := by
  induction run with
  | rest w => exact serves
  | next first run ih =>
      obtain ⟨this, others⟩ := List.forall_mem_cons.1 network
      exact ih (serves.next first this).1 others

variable {localId : String} {t t' : Tables}

theorem Leaves.granted (leaves : Leaves requests localId e t t') :
    t'.commands = t.commands ∧ t'.allowLists = t.allowLists := by
  cases leaves <;> exact ⟨rfl, rfl⟩

theorem registry_observe {a : Announcement} {id : String} (other : a.deviceId = id → id = localId) (now : Moment)
    (t : PeerTable) : (t.observe localId now a).2.registry.get? id = t.registry.get? id := by
  unfold PeerTable.observe
  by_cases own : a.deviceId = localId
  · rw [if_pos own]
  · rw [if_neg own]
    refine (Registry.get?_update ..).trans (if_neg fun same => ?_)
    exact own (same.symm.trans (other same.symm))

def Introduces (localId : String) (request : Inbound) (id : String) : Prop :=
  ∃ a, Announces request a ∧ a.deviceId = id ∧ id ≠ localId

theorem Leaves.registry (leaves : Leaves requests localId e t t') {id : String}
    (silent : ∀ ticket request, requests ticket = some request → ¬Introduces localId request id) :
    t'.peers.registry.get? id = t.peers.registry.get? id := by
  cases leaves with
  | same => rfl
  | @heard ticket now request a own found announces =>
      refine registry_observe (fun same => ?_) now t.peers
      by_contra other
      exact silent ticket request found ⟨a, announces, same, other⟩

theorem Leaves.of_registry_ne (leaves : Leaves requests localId e t t')
    (changed : t'.peers.registry ≠ t.peers.registry) :
    ∃ ticket now request a, e = .acted ticket now ⟨Step.access (.observe a), (t.peers.observe localId now a).1⟩ ∧
      requests ticket = some request ∧ Announces request a ∧ a.deviceId ≠ localId ∧
      ∀ id, id ≠ a.deviceId → t'.peers.registry.get? id = t.peers.registry.get? id := by
  cases leaves with
  | same => exact (changed rfl).elim
  | @heard ticket now request a own found announces =>
      refine ⟨ticket, now, request, a, own, found, announces, fun self => changed ?_, fun id other => ?_⟩
      · simp only [PeerTable.observe, if_pos self]
      · exact registry_observe (fun same => (other same.symm).elim) now t.peers

structure Untouched (requests : Nat → Option Inbound) (localId : String) (before after : Tables) : Prop where
  commands : after.commands = before.commands
  allowLists : after.allowLists = before.allowLists
  registry : ∀ id, (∀ ticket request, requests ticket = some request → ¬Introduces localId request id) →
    after.peers.registry.get? id = before.peers.registry.get? id

theorem Serves.untouched (run : Run profile v past w) (serves : Serves requests v) (network : OnlyNetwork past) :
    Untouched requests profile.id v.tables w.tables := by
  induction run with
  | rest w => exact ⟨rfl, rfl, fun _ _ => rfl⟩
  | next first run ih =>
      obtain ⟨this, others⟩ := List.forall_mem_cons.1 network
      obtain ⟨serves, leaves⟩ := serves.next first this
      obtain ⟨commands, allowLists⟩ := leaves.granted
      have later := ih serves others
      refine ⟨later.commands.trans commands, later.allowLists.trans allowLists, fun id silent => ?_⟩
      exact (later.registry id silent).trans (leaves.registry silent)

/-- What requests from the network can do to a device, and what they learn of it. -/
structure GrantsNothing (profile : Profile) (tables : Tables) (requests : Nat → Option Inbound) : Prop where
  untouched : ∀ past w, Run profile (served profile tables requests) past w → OnlyNetwork past →
    Untouched requests profile.id tables w.tables
  registered : ∀ past v e w, Run profile (served profile tables requests) past v → Next profile v e w →
    OnlyNetwork (past ++ [(v, e)]) → w.tables.peers.registry ≠ v.tables.peers.registry →
    ∃ ticket now request a,
      e = .acted ticket now ⟨Step.access (.observe a), (v.tables.peers.observe profile.id now a).1⟩ ∧
      requests ticket = some request ∧ Announces request a ∧ a.deviceId ≠ profile.id ∧
      ∀ id, id ≠ a.deviceId → w.tables.peers.registry.get? id = v.tables.peers.registry.get? id
  /-- An invocation from elsewhere has the same answer whatever it may meet. -/
  elsewhere : ∀ request service, request.method = "POST" → pathOf request.uri = invokePath service → '/' ∉ service →
    ¬Loopback request.caller → ∃ answer, ∀ profile (world : Surroundings interface) past,
      (handle profile request).transcript world past = [] ∧ (handle profile request).result world past = answer

theorem networkGrantsNothing (profile : Profile) (tables : Tables) (requests : Nat → Option Inbound) :
    GrantsNothing profile tables requests where
  untouched past w run network := (serves_served profile tables requests).untouched run network
  registered past v e w run next network changed := by
    obtain ⟨before, this⟩ := List.forall_mem_append.1 network
    have serves := (serves_served profile tables requests).run run before
    exact (serves.next next (this _ List.mem_cons_self)).2.of_registry_ne changed
  elsewhere request service posted path clear elsewhere := by
    refine ⟨refusalElsewhere service request, fun profile world past => ?_⟩
    rw [handle_invoke_elsewhere profile posted path clear elsewhere]
    exact ⟨rfl, rfl⟩

end Emplace.Http
