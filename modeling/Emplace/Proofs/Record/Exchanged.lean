import Emplace.Proofs.Record.Faithful

namespace Emplace

theorem Fields.Faithful.required {α β : Type} {shape : Shape β} {fields : Fields α} {names : List String}
    (name : String) (shape_faithful : shape.Faithful) (fields_faithful : fields.Faithful names) (fresh : name ∉ names) :
    (Fields.cons (Emplace.required name shape) fields).Faithful (name :: names) :=
  .cons shape_faithful (fun _ out => by cases out) fields_faithful fresh

theorem Fields.Faithful.defaulted {α β : Type} {shape : Shape β} {fields : Fields α} {names : List String}
    (name : String) (value : β) (shape_faithful : shape.Faithful) (fields_faithful : fields.Faithful names)
    (fresh : name ∉ names) : (Fields.cons (Emplace.defaulted name shape value) fields).Faithful (name :: names) :=
  .cons shape_faithful (fun _ out => by cases out) fields_faithful fresh

theorem Shape.optional_whole_faithful {α : Type} {toInt : α → Int} {ofInt? : Int → Option α}
    (faithful : (whole toInt ofInt?).Faithful) : (whole toInt ofInt?).optional.Faithful := by
  refine optional_faithful faithful fun a c cs eq => ?_
  obtain ⟨d, ds, same, -, value⟩ := opening_of_toString_int (toInt a)
  obtain ⟨rfl, -⟩ := List.cons.inj (eq.symm.trans same)
  exact value

theorem RemoteExecution.shape_faithful : RemoteExecution.shape.Faithful := by
  have args := Fields.none_faithful.required "args" (Shape.list_faithful Shape.text_faithful) (by decide)
  have executable := args.required "executable" Shape.text_faithful (by decide)
  have requester := executable.required "requester" Shape.text_faithful (by decide)
  have service := requester.required "service_name" Shape.text_faithful (by decide)
  exact Shape.record_faithful service fun _ => rfl

theorem ExecutionOutput.shape_faithful : ExecutionOutput.shape.Faithful := by
  have code : Shape.int32.optional.Faithful := Shape.optional_whole_faithful Shape.int32_faithful
  have stderr := Fields.none_faithful.required "stderr" Shape.text_faithful (by decide)
  have stdout := stderr.required "stdout" Shape.text_faithful (by decide)
  refine Shape.record_faithful (Fields.Faithful.cons code ?_ stdout ?_) fun _ => rfl
  · rintro _ ⟨⟩
  · decide

theorem InvokeResponse.shape_faithful : InvokeResponse.shape.Faithful := by
  have output := Fields.none_faithful.required "output" ExecutionOutput.shape_faithful (by decide)
  have here := output.required "is_local" Shape.flag_faithful (by decide)
  have target := here.required "target_device_id" Shape.text_faithful (by decide)
  have service := target.required "service_name" Shape.text_faithful (by decide)
  exact Shape.record_faithful service fun _ => rfl

theorem InvokeRequest.shape_faithful : InvokeRequest.shape.Faithful := by
  have limit : Shape.word64.optional.Faithful := Shape.optional_whole_faithful Shape.word64_faithful
  -- A limit that is left out is none, which is what an object without one has.
  have timeout : (Fields.cons { Emplace.defaulted "timeout_ms" Shape.word64.optional none with
      leftOut := Option.isNone } Fields.none).Faithful ["timeout_ms"] :=
    .cons limit (fun b out => congrArg some (Option.isNone_iff_eq_none.1 out).symm) Fields.none_faithful (by decide)
  have args := timeout.defaulted "args" [] (Shape.list_faithful Shape.text_faithful) (by decide)
  have requester := args.required "requester" Shape.text_faithful (by decide)
  have service := requester.required "service_name" Shape.text_faithful (by decide)
  exact Shape.record_faithful service fun _ => rfl

theorem ServiceDescriptor.shape_faithful : ServiceDescriptor.shape.Faithful := by
  have requesters := Fields.none_faithful.defaulted "allowed_requesters" []
    (Shape.list_faithful Shape.text_faithful) (by decide)
  have executable := requesters.required "executable" Shape.text_faithful (by decide)
  have service := executable.required "service_name" Shape.text_faithful (by decide)
  exact Shape.record_faithful service fun _ => rfl

theorem PlacementDecision.shape_faithful : PlacementDecision.shape.Faithful := by
  have here := Fields.none_faithful.required "is_local" Shape.flag_faithful (by decide)
  have address := here.required "target_address" Shape.text_faithful (by decide)
  have target := address.required "target_device_id" Shape.text_faithful (by decide)
  exact Shape.record_faithful target fun _ => rfl

end Emplace
