import OutboxRelay.IntegrationEvent
import OutboxRelay.Proofs.Json.Decode
import OutboxRelay.Proofs.Json.RoundTrip

/-!
# Envelopes read back

An envelope is decoded from its JSON form as it was, and from the text of that form if its payload
is plain. A decoder of payloads of one kind gives the same envelope around what it decodes the
payload as. The JSON form passes validation exactly if the fields that have to say something do; the
text is then what its integration event carries.
-/

namespace OutboxRelay.Envelope

variable {α : Type} (envelope : Envelope Json)

/-- The envelope that a text denotes: the text is read as a value, and the value is decoded. -/
def ofText? (text : String) : Option (Envelope Json) :=
  (Json.ofText? text).bind fun value => (ofJson Json.Decoder.any value).toOption

theorem nodup_fields : (envelope.fields.map Prod.fst).Nodup := by
  cases correlation : envelope.correlationId <;> cases causation : envelope.causationId
  all_goals
    simp only [fields, correlation, causation, Json.presentField]
    simp

/-- What stands under a key of the JSON form. -/
theorem get?_toJson (key : String) : envelope.toJson.get? key = envelope.fields.lookup key :=
  Json.get?_ofFields (nodup_fields envelope) key

/-- A link that is written is looked up as a text. One that is absent has no field at all. -/
theorem lookup_correlation :
    envelope.fields.lookup "correlation_id" = envelope.correlationId.map .text := by
  cases correlation : envelope.correlationId <;> cases causation : envelope.causationId
  all_goals
    simp only [fields, correlation, causation, Json.presentField]
    rfl

theorem lookup_causation :
    envelope.fields.lookup "causation_id" = envelope.causationId.map .text := by
  cases correlation : envelope.correlationId <;> cases causation : envelope.causationId
  all_goals
    simp only [fields, correlation, causation, Json.presentField]
    rfl

theorem lookup_payload : envelope.fields.lookup "payload" = some envelope.payload := by
  cases correlation : envelope.correlationId <;> cases causation : envelope.causationId
  all_goals
    simp only [fields, correlation, causation, Json.presentField]
    rfl

variable {envelope} {decode : Json.Decoder α} {decoded : α}

/-- Every field passes its own check. -/
theorem accepted_fields (valid : envelope.occurredAt.IsValid)
    (carried : decode envelope.payload = .ok decoded) :
    ∀ field ∈ envelope.fields, Json.checkField (rules decode) field = .ok () := by
  have link {name : String} (link? : Option String)
      (rule : (rules decode).find? (fun rule => rule.name == name) =
        some (.optional name Json.Decoder.text)) :
      ∀ field ∈ Json.presentField name .text link?,
        Json.checkField (rules decode) field = .ok () := by
    cases link? with
    | none => rintro field ⟨⟩
    | some value =>
      intro field member
      rw [List.mem_singleton.mp member]
      have given : Json.Decoder.text.optional (.text value) = .ok (some value) := rfl
      exact Json.checkField_of_optional _ rule given
  simp only [fields, List.forall_mem_append, List.forall_mem_cons]
  refine ⟨⟨⟨⟨?_, ?_, ?_, ?_, ?_, ?_, ?_⟩, link _ rfl⟩, link _ rfl⟩, ?_, ?_⟩
  · exact Json.checkField_of_required _ rfl (Json.decode_identifier envelope.eventId)
  · exact Json.checkField_of_required _ rfl (Json.decode_instant valid)
  · exact Json.checkField_of_required Json.Decoder.text rfl rfl
  · exact Json.checkField_of_required Json.Decoder.text rfl rfl
  · exact Json.checkField_of_required Json.Decoder.text rfl rfl
  · exact Json.checkField_of_required Json.Decoder.text rfl rfl
  · rintro field ⟨⟩
  · exact Json.checkField_of_required decode rfl carried
  · rintro field ⟨⟩

/-- No field that has to be there is left out. Only the links may be. -/
theorem complete_fields :
    ∀ rule ∈ rules decode, rule.mandatory → (envelope.fields.lookup rule.name).isSome := by
  simp only [rules, List.forall_mem_cons]
  refine ⟨?_, ?_, ?_, ?_, ?_, ?_, ?_, ?_, ?_, ?_⟩
  · exact fun _ => rfl
  · exact fun _ => rfl
  · exact fun _ => rfl
  · exact fun _ => rfl
  · exact fun _ => rfl
  · exact fun _ => rfl
  · intro optional
    exact absurd optional (by decide)
  · intro optional
    exact absurd optional (by decide)
  · intro _
    exact (congrArg Option.isSome (lookup_payload envelope)).trans rfl
  · rintro rule ⟨⟩

/-- An envelope is decoded from its JSON form field by field, around whatever its payload is decoded
as.

Proof: every field is accepted by its own rule (`accepted_fields`) and none is missing
(`complete_fields`), so that the object passes for a record. What is decoded for each field is then
what was written for it. -/
theorem ofJson_toJson_around (valid : envelope.occurredAt.IsValid)
    (carried : decode envelope.payload = .ok decoded) :
    ofJson decode envelope.toJson = .ok (envelope.mapPayload fun _ => decoded) := by
  have once := nodup_fields envelope
  have link {name : String} {link? : Option String}
      (given : envelope.fields.lookup name = link?.map .text) :
      Json.optionalField name Json.Decoder.text (Fields.ofList envelope.fields) = .ok link? := by
    cases link? with
    | none => exact Json.optionalField_ofList_absent once _ _ given
    | some value => exact Json.optionalField_ofList once _ _ given rfl
  rw [ofJson, toJson,
    Json.recordFields_ofFields _ once (accepted_fields valid carried) complete_fields]
  simp only [bind, Except.bind,
    Json.requiredField_ofList once "event_id" _ rfl (Json.decode_identifier envelope.eventId),
    Json.requiredField_ofList once "occurred_at" _ rfl (Json.decode_instant valid),
    Json.requiredField_ofList once "source_module" Json.Decoder.text rfl rfl,
    Json.requiredField_ofList once "source_version" Json.Decoder.text rfl rfl,
    Json.requiredField_ofList once "aggregate_type" Json.Decoder.text rfl rfl,
    Json.requiredField_ofList once "aggregate_id" Json.Decoder.text rfl rfl,
    link (lookup_correlation envelope), link (lookup_causation envelope),
    Json.requiredField_ofList once "payload" decode (lookup_payload envelope) carried]
  rfl

/-- An envelope is read back from its JSON form. -/
theorem ofJson_toJson (valid : envelope.occurredAt.IsValid) :
    ofJson Json.Decoder.any envelope.toJson = .ok envelope :=
  ofJson_toJson_around valid rfl

/-- The JSON form of an envelope around a plain payload is plain. -/
theorem plain_toJson (plain : envelope.payload.Plain) : envelope.toJson.Plain := by
  have link (name : String) (link? : Option String) :
      ∀ field ∈ Json.presentField name .text link?, field.2.Plain := by
    cases link? with
    | none => rintro field ⟨⟩
    | some value =>
      intro field member
      rw [List.mem_singleton.mp member]
      exact .text value
  refine Json.plain_ofFields ?_
  simp only [fields, List.forall_mem_append, List.forall_mem_cons]
  refine ⟨⟨⟨⟨.text _, .text _, .text _, .text _, .text _, .text _, ?_⟩, link _ _⟩, link _ _⟩,
    plain, ?_⟩
  all_goals rintro field ⟨⟩

/-- An envelope is read back from its text, since a plain value is read back from its own. -/
theorem ofText?_compact (valid : envelope.occurredAt.IsValid) (plain : envelope.payload.Plain) :
    ofText? envelope.toJson.compact = some envelope := by
  rw [ofText?, Json.ofText?_compact (plain_toJson plain), Option.bind_some, ofJson_toJson valid]
  rfl

/-- An envelope whose named fields all say something is valid, whatever its time. Validation asks of
the time only that it is a text. -/
theorem validate_toJson (named : envelope.sourceModule ≠ "" ∧ envelope.sourceVersion ≠ "" ∧
    envelope.aggregateType ≠ "" ∧ envelope.aggregateId ≠ "") :
    validate envelope.toJson = .ok () := by
  have field (name : String) {value : String}
      (given : envelope.fields.lookup name = some (.text value)) :
      textField? name envelope.toJson = some value := by
    rw [textField?, get?_toJson, given]
    rfl
  have passes (name : String) {value : String}
      (given : envelope.fields.lookup name = some (.text value)) (something : value ≠ "") :
      validateNamed envelope.toJson name = .ok () := by
    have nonempty : value.isEmpty = false := by simpa using something
    simp [validateNamed, field name given, nonempty]
  have id : ((textField? "event_id" envelope.toJson).bind Identifier.ofText?).isNone = false := by
    rw [field "event_id" rfl, Option.bind_some, Identifier.ofText?_toText]
    rfl
  have time : (textField? "occurred_at" envelope.toJson).isNone = false := by
    rw [field "occurred_at" rfl]
    rfl
  have payload : (envelope.toJson.get? "payload").isNone = false := by
    rw [get?_toJson, lookup_payload]
    rfl
  obtain ⟨module, version, aggregate, aggregateId⟩ := named
  simp only [validate, id, time, payload, namedFields, List.forM_eq_forM, List.forM_cons,
    List.forM_nil, passes "source_module" rfl module,
    passes "source_version" rfl version, passes "aggregate_type" rfl aggregate,
    passes "aggregate_id" rfl aggregateId]
  rfl

end OutboxRelay.Envelope
