import Emplace.Proofs.Device.Payloads
import Emplace.Proofs.Device.Steps
import Emplace.Proofs.Json.Skipping

/-!
# Requests and replies are told apart

Both directions of a forwarded execution are sealed under one key, so only their content says which is which. An object
none of whose members a record knows leaves the slots of the record blank (`read_of_foreign`): forwarded executions and
outputs have no member in common and each has one that must be there, so neither is ever read as the other. Every record
that is exchanged is read back as it was written (`exchangedRecords`).
-/

namespace Emplace

open Json (Fault Reader Ended render)
open Json.Reader
open Text (Symbol characters)

variable {α ρ : Type}

namespace Fields

/-- A member that a record does not know, with a value that can be passed over. -/
def Foreign (fields : Fields α) (member : String × Json) : Prop :=
  fields.take member.1 = Option.none ∧ Skips (render member.2)

theorem objectStep_foreign {fields : Fields α} {first : Bool} (slots : fields.Slots) {name : String} {value : Json}
    {input rest : List Symbol}
    (key : nextKey first input = .ok (some name, .char ':' :: (characters (render value) ++ rest)))
    (foreign : fields.Foreign (name, value)) (ended : Ended rest) :
    fields.objectStep (first, slots) input = .ok (.inl (false, slots), rest) := by
  have colon : Reader.colon (.char ':' :: (characters (render value) ++ rest)) =
      .ok ((), characters (render value) ++ rest) := rfl
  have unknown : fields.take name = Option.none := foreign.1
  have skipped : Reader.skipValue (characters (render value) ++ rest) = .ok ((), rest) := foreign.2.skipValue ended
  simp only [objectStep, bind_apply, key, unknown, colon, skipped]
  rfl

theorem objectStep_incomplete (fields : Fields α) {first : Bool} {slots : fields.Slots}
    (incomplete : fields.complete slots = Option.none) (rest : List Symbol) :
    fields.objectStep (first, slots) (.char '}' :: rest) = .error .mismatched := by
  have close : nextKey first (.char '}' :: rest) = .ok (Option.none, .char '}' :: rest) := rfl
  simp only [objectStep, bind_apply, close, incomplete]
  rfl

theorem iterateWithin_foreign {fields : Fields α} {members : List (String × Json)} {slots : fields.Slots}
    (foreign : ∀ member ∈ members, fields.Foreign member) (incomplete : fields.complete slots = Option.none)
    (rest : List Symbol) (bound : Nat) (enough : members.length < bound) :
    iterateWithin fields.objectStep bound (false, slots) (membersTail members rest) = .error .mismatched := by
  induction members generalizing bound with
  | nil =>
      obtain ⟨bound, rfl⟩ : ∃ n, bound = n + 1 := ⟨bound - 1, by omega⟩
      exact iterateWithin_error (objectStep_incomplete fields incomplete rest) bound
  | cons member members ih =>
      obtain ⟨bound, rfl⟩ : ∃ n, bound = n + 1 := ⟨bound - 1, by omega⟩
      obtain ⟨name, value⟩ := member
      have key := nextKey_comma name (.char ':' :: (characters (render value) ++ membersTail members rest))
      have step := objectStep_foreign slots key (foreign _ List.mem_cons_self) (ended_membersTail members rest)
      rw [membersTail_cons, memberText]
      simp only [Text.characters_append, Text.characters_cons, List.append_assoc, List.cons_append]
      rw [iterateWithin_inl step]
      exact ih (fun m inside => foreign m (List.mem_cons_of_mem _ inside)) bound (by simpa using enough)

theorem read_of_foreign {fields : Fields α} {members : List (String × Json)}
    (foreign : ∀ member ∈ members, fields.Foreign member) (incomplete : fields.complete fields.blank = Option.none)
    (rest : List Symbol) : fields.read (characters (render (.object members)) ++ rest) = .error .mismatched := by
  cases members with
  | nil => exact iterateWithin_error (objectStep_incomplete fields incomplete rest) (rest.length + 1)
  | cons member members =>
      obtain ⟨name, value⟩ := member
      have key := nextKey_first name (.char ':' :: (characters (render value) ++ membersTail members rest))
      have step := objectStep_foreign fields.blank key (foreign _ List.mem_cons_self)
        (ended_membersTail members rest)
      have text : characters (render (.object ((name, value) :: members))) ++ rest =
          .char '{' :: (characters (Json.stringText name) ++
            .char ':' :: (characters (render value) ++ membersTail members rest)) := by
        simp [render, membersTail]
      rw [text]
      show iterateWithin fields.objectStep (_ + 1) (true, fields.blank) _ = _
      rw [iterateWithin_inl step, iterateWithin_foreign _ incomplete]
      · have := length_lt_length_membersTail members rest
        simp only [List.length_append, List.length_cons]
        omega
      · exact fun m inside => foreign m (List.mem_cons_of_mem _ inside)

end Fields

theorem Shape.decode_of_foreign {fields : Fields α} {make : α → ρ} {parts : ρ → α} {members : List (String × Json)}
    (foreign : ∀ member ∈ members, fields.Foreign member) (incomplete : fields.complete fields.blank = none) :
    (Shape.record fields make parts).decode (Json.object members).bytes = .error .mismatched := by
  have read := Fields.read_of_foreign foreign incomplete []
  rw [List.append_nil] at read
  simp [Shape.decode, Json.bytes, Text.symbols_encode, readAll, Shape.record, Reader.map, andThen, read]

theorem Shape.skips_texts (texts : List String) : Skips (render (Shape.text.list.write texts)) := by
  refine skips_list ?_ ?_ <;> intro value member <;> obtain ⟨s, -, rfl⟩ := List.mem_map.1 member
  · exact skips_text s
  · exact ⟨'"', _, rfl, rfl, by decide⟩

theorem Shape.skips_code (code : Option Int32) : Skips (render (Shape.int32.optional.write code)) := by
  cases code with
  | none => exact skips_null
  | some n => exact skips_whole n.toInt

theorem ExecutionOutput.decode_execution (x : RemoteExecution) :
    ExecutionOutput.shape.decode (RemoteExecution.shape.encode x) = .error .mismatched := by
  have written : RemoteExecution.shape.encode x = (Json.object [("service_name", .text x.serviceName),
    ("requester", .text x.requester), ("executable", .text x.executable),
    ("args", Shape.text.list.write x.args)]).bytes := rfl
  rw [written]
  refine Shape.decode_of_foreign ?_ rfl
  simp only [List.forall_mem_cons]
  refine ⟨⟨rfl, skips_text _⟩, ⟨rfl, skips_text _⟩, ⟨rfl, skips_text _⟩, ⟨rfl, Shape.skips_texts _⟩, ?_⟩
  exact fun _ none => (List.not_mem_nil none).elim

theorem RemoteExecution.decode_output (output : ExecutionOutput) :
    RemoteExecution.shape.decode (ExecutionOutput.shape.encode output) = .error .mismatched := by
  have written : ExecutionOutput.shape.encode output = (Json.object [
    ("exit_code", Shape.int32.optional.write output.exitCode), ("stdout", .text output.stdout),
    ("stderr", .text output.stderr)]).bytes := rfl
  rw [written]
  refine Shape.decode_of_foreign ?_ rfl
  simp only [List.forall_mem_cons]
  refine ⟨⟨rfl, Shape.skips_code _⟩, ⟨rfl, skips_text _⟩, ⟨rfl, skips_text _⟩, ?_⟩
  exact fun _ none => (List.not_mem_nil none).elim

variable {cipher : Cipher} {nonce : Gcm.Nonce} {payload : Bytes}

theorem Cipher.opened_of_sealed {plain : Bytes} (sealing : cipher.sealed nonce plain = .ok payload) :
    cipher.opened payload = .ok plain := by
  have nonempty : plain ≠ [] := by
    rintro rfl
    cases sealing
  obtain ⟨payload', sealing', opening⟩ := cipher.sealed_opened nonce nonempty
  rwa [← Except.ok.inj (sealing.symm.trans sealing')] at opening

theorem Http.readOutput_of_execution {x : RemoteExecution} (sealing : sealedExecution cipher nonce x = .ok payload) :
    readOutput cipher payload = .error (.decode .mismatched) := by
  cases sealed : cipher.sealed nonce (RemoteExecution.shape.encode x) with
  | error e =>
      rw [sealedExecution, sealed] at sealing
      cases sealing
  | ok payload' =>
      rw [sealedExecution, sealed] at sealing
      cases sealing
      simp only [readOutput, Cipher.opened_of_sealed sealed, ExecutionOutput.decode_execution]
      rfl

theorem Device.executeRemote_of_output {profile : Profile} {output : ExecutionOutput}
    (sealing : profile.cipher.sealed nonce (ExecutionOutput.shape.encode output) = .ok payload) :
    (executeRemote profile payload).run = .done (.error (.invalidCommand (.malformed .mismatched))) := by
  have reading : readExecution profile.cipher payload = .error (.invalidCommand (.malformed .mismatched)) := by
    simp only [readExecution, Cipher.opened_of_sealed sealing, RemoteExecution.decode_output]
    rfl
  rw [run_executeRemote, reading]
  rfl

structure ExchangedRecords : Prop where
  execution : ∀ x : RemoteExecution, RemoteExecution.shape.decode (RemoteExecution.shape.encode x) = .ok x
  output : ∀ x : ExecutionOutput, ExecutionOutput.shape.decode (ExecutionOutput.shape.encode x) = .ok x
  request : ∀ x : InvokeRequest, InvokeRequest.shape.decode (InvokeRequest.shape.encode x) = .ok x
  response : ∀ x : InvokeResponse, InvokeResponse.shape.decode (InvokeResponse.shape.encode x) = .ok x
  descriptor : ∀ x : ServiceDescriptor, ServiceDescriptor.shape.decode (ServiceDescriptor.shape.encode x) = .ok x
  decision : ∀ x : PlacementDecision, PlacementDecision.shape.decode (PlacementDecision.shape.encode x) = .ok x
  omitted : ∀ x : InvokeRequest, ∃ members, InvokeRequest.shape.write x = .object members ∧
    ("timeout_ms" ∈ members.map Prod.fst ↔ x.timeoutMs ≠ none)
  reflected : ∀ x, ExecutionOutput.shape.decode (RemoteExecution.shape.encode x) = .error .mismatched
  replayed : ∀ x, RemoteExecution.shape.decode (ExecutionOutput.shape.encode x) = .error .mismatched
  reflected_refused : ∀ cipher nonce x payload status address, Http.sealedExecution cipher nonce x = .ok payload →
    Http.isSuccess status = true →
    Http.forwarded cipher address (.answered status payload) = some (.error (.decode .mismatched))
  replayed_refused : ∀ (profile : Profile) nonce x payload,
    profile.cipher.sealed nonce (ExecutionOutput.shape.encode x) = .ok payload →
    (Device.executeRemote profile payload).run = .done (.error (.invalidCommand (.malformed .mismatched)))

theorem exchangedRecords : ExchangedRecords where
  execution := RemoteExecution.shape_faithful.decode_encode
  output := ExecutionOutput.shape_faithful.decode_encode
  request := InvokeRequest.shape_faithful.decode_encode
  response := InvokeResponse.shape_faithful.decode_encode
  descriptor := ServiceDescriptor.shape_faithful.decode_encode
  decision := PlacementDecision.shape_faithful.decode_encode
  omitted x := by
    refine ⟨_, rfl, ?_⟩
    cases limit : x.timeoutMs <;> simp [Fields.cons, Fields.none, limit, required, defaulted]
  reflected := ExecutionOutput.decode_execution
  replayed := RemoteExecution.decode_output
  reflected_refused cipher nonce x payload status address sealing success := by
    rw [Http.forwarded, if_pos success, Http.readOutput_of_execution sealing]
  replayed_refused profile nonce x payload := Device.executeRemote_of_output

end Emplace
