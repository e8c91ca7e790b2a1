import OutboxRelay.Proofs.Envelope
import OutboxRelay.Proofs.Instant.Reading

/-!
# One format, three descriptions

An envelope's format is described by its decoder, by its encoder and by validation. What they have
in common is what they find under the keys of an object: the object that an envelope was decoded
from and the object that the envelope is encoded as describe the same envelope, although they need
not be equal. The first may spell its identifier and its time in other ways, give a link as null and
carry other keys besides. Validation sees no more of either than the envelope itself says, so that
its verdict is the same on both.

Validation demands more than decoding: the fields that have to say something are only texts to the
decoder.
-/

namespace OutboxRelay

namespace Envelope

variable {envelope : Envelope Json}

/-- The texts that have to say something, under the names of their fields and in the order of
validation. -/
def namedTexts (envelope : Envelope Json) : List (String × String) :=
  [("source_module", envelope.sourceModule), ("source_version", envelope.sourceVersion),
   ("aggregate_type", envelope.aggregateType), ("aggregate_id", envelope.aggregateId)]

/-- Whether module, version, aggregate type and aggregate identifier all say something. This is all
that validation demands beyond what the decoder does. -/
def SaysEverything (envelope : Envelope Json) : Prop :=
  envelope.sourceModule ≠ "" ∧ envelope.sourceVersion ≠ "" ∧
    envelope.aggregateType ≠ "" ∧ envelope.aggregateId ≠ ""

/-- What validation can find wrong with an envelope that was decoded: the first text that says
nothing. -/
def verdict (envelope : Envelope Json) : Except EnvelopeFault Unit :=
  match envelope.namedTexts.find? fun named => named.2.isEmpty with
  | some named => .error (.empty named.1)
  | none => .ok ()

/-- Nothing is found wrong exactly where everything is said. -/
theorem verdict_eq_ok_iff : envelope.verdict = .ok () ↔ envelope.SaysEverything := by
  cases found : envelope.namedTexts.find? fun named => named.2.isEmpty with
  | some named =>
    have empty : named.2 = "" := by simpa using List.find?_some found
    have among : named ∈ envelope.namedTexts := List.mem_of_find?_eq_some found
    constructor
    · intro nothing
      simp [verdict, found] at nothing
    · rintro ⟨module, version, aggregate, id⟩
      simp only [namedTexts, List.mem_cons, List.not_mem_nil, or_false] at among
      rcases among with rfl | rfl | rfl | rfl <;> contradiction
  | none =>
    simp only [verdict, found, true_iff]
    simpa [namedTexts, SaysEverything] using found

/-- An object describes an envelope if validation and decoding find in it what the envelope says.
Nothing is demanded of how the identifier and the time are spelled, nor of the links. -/
structure Describes (value : Json) (envelope : Envelope Json) : Prop where
  id : (textField? "event_id" value).bind Identifier.ofText? = some envelope.eventId
  time : (textField? "occurred_at" value).isSome = true
  named : ∀ text ∈ envelope.namedTexts, textField? text.1 value = some text.2
  payload : value.get? "payload" = some envelope.payload

/-- Validation of one field after the other stops at the first one that says nothing. The induction
is on the fields. -/
theorem forM_validateNamed {value : Json} {texts : List (String × String)}
    (given : ∀ text ∈ texts, textField? text.1 value = some text.2) :
    (texts.map Prod.fst).forM (validateNamed value) =
      match texts.find? fun named => named.2.isEmpty with
      | some named => .error (.empty named.1)
      | none => .ok () := by
  induction texts with
  | nil => rfl
  | cons text rest inductionHypothesis =>
    have first := given text List.mem_cons_self
    have later := inductionHypothesis fun text member => given text (List.mem_cons_of_mem _ member)
    rw [List.map_cons, List.forM_eq_forM, List.forM_cons]
    cases empty : text.2.isEmpty with
    | true =>
      have refused : validateNamed value text.1 = .error (.empty text.1) := by
        simp [validateNamed, first, empty]
      simp only [refused, List.find?_cons, empty]
      rfl
    | false =>
      have passed : validateNamed value text.1 = .ok () := by
        simp [validateNamed, first, empty]
      simp only [passed, List.find?_cons, empty]
      exact later

/-- Validation of an object comes to the verdict on the envelope that the object describes. It sees
nothing of the object but what `Describes` fixes. -/
theorem Describes.validate_eq {value : Json} (describes : Describes value envelope) :
    validate value = envelope.verdict := by
  have checked := forM_validateNamed describes.named
  have id := describes.id
  have time := describes.time
  have names : namedFields = envelope.namedTexts.map Prod.fst := rfl
  rw [← names] at checked
  simp only [validate, id, Option.isNone_some, Option.isNone_eq_false_iff.mpr time,
    describes.payload, checked]
  unfold verdict
  cases envelope.namedTexts.find? fun named => named.2.isEmpty <;> rfl

/-- The object that an envelope is encoded as describes the envelope. -/
theorem describes_toJson (envelope : Envelope Json) : Describes envelope.toJson envelope := by
  have field {name text : String} (given : envelope.fields.lookup name = some (.text text)) :
      textField? name envelope.toJson = some text := by
    rw [textField?, get?_toJson, given]
    rfl
  refine ⟨?_, ?_, ?_, ?_⟩
  · rw [field rfl, Option.bind_some, Identifier.ofText?_toText]
  · rw [field rfl]
    rfl
  · simp only [namedTexts, List.forall_mem_cons, List.not_mem_nil, false_implies, implies_true,
      and_true]
    exact ⟨field rfl, field rfl, field rfl, field rfl⟩
  · rw [get?_toJson, lookup_payload]

/-- Every field of an envelope that was decoded is the one that stands in the object. The decoder is
taken apart into its steps, each of which must have succeeded. -/
theorem requiredFields_of_ofJson {fields : List (String × Json)}
    (decoded : ofJson Json.Decoder.any (.object fields) = .ok envelope) :
    Json.requiredField "event_id" Json.Decoder.identifier fields = .ok envelope.eventId ∧
      Json.requiredField "occurred_at" Json.Decoder.instant fields = .ok envelope.occurredAt ∧
      (∀ text ∈ envelope.namedTexts,
        Json.requiredField text.1 Json.Decoder.text fields = .ok text.2) ∧
      Json.requiredField "payload" Json.Decoder.any fields = .ok envelope.payload := by
  rw [ofJson] at decoded
  obtain ⟨kept, checked, decode⟩ := bind_eq_ok_iff.mp decoded
  obtain ⟨id, idRead, decode⟩ := bind_eq_ok_iff.mp decode
  obtain ⟨time, timeRead, decode⟩ := bind_eq_ok_iff.mp decode
  obtain ⟨module, moduleRead, decode⟩ := bind_eq_ok_iff.mp decode
  obtain ⟨version, versionRead, decode⟩ := bind_eq_ok_iff.mp decode
  obtain ⟨aggregate, aggregateRead, decode⟩ := bind_eq_ok_iff.mp decode
  obtain ⟨aggregateId, aggregateIdRead, decode⟩ := bind_eq_ok_iff.mp decode
  obtain ⟨_, _, decode⟩ := bind_eq_ok_iff.mp decode
  obtain ⟨_, _, decode⟩ := bind_eq_ok_iff.mp decode
  obtain ⟨payload, payloadRead, decode⟩ := bind_eq_ok_iff.mp decode
  obtain rfl := Json.eq_of_recordFields checked
  cases decode
  simp [namedTexts, idRead, timeRead, moduleRead, versionRead, aggregateRead, aggregateIdRead,
    payloadRead]

/-- The object that an envelope was decoded from describes the envelope. -/
theorem describes_of_ofJson {fields : List (String × Json)}
    (decoded : ofJson Json.Decoder.any (.object fields) = .ok envelope) :
    Describes (.object fields) envelope := by
  obtain ⟨idRead, timeRead, textsRead, payloadRead⟩ := requiredFields_of_ofJson decoded
  constructor
  · obtain ⟨value, found, denoted⟩ := Json.lookup_of_requiredField idRead
    obtain ⟨written, rfl, back⟩ := Json.exists_of_decode_identifier denoted
    simp [textField?, Json.get?, found, Json.text?, back]
  · obtain ⟨value, found, denoted⟩ := Json.lookup_of_requiredField timeRead
    obtain ⟨written, rfl, _⟩ := Json.exists_of_decode_instant denoted
    simp [textField?, Json.get?, found, Json.text?]
  · intro text member
    obtain ⟨value, found, denoted⟩ := Json.lookup_of_requiredField (textsRead text member)
    rw [Json.eq_of_decode_text denoted] at found
    simp [textField?, Json.get?, found, Json.text?]
  · obtain ⟨value, found, denoted⟩ := Json.lookup_of_requiredField payloadRead
    cases denoted
    exact found

/-- The time of an envelope that was decoded is one that a clock can show. -/
theorem isValid_occurredAt {fields : List (String × Json)}
    (decoded : ofJson Json.Decoder.any (.object fields) = .ok envelope) :
    envelope.occurredAt.IsValid := by
  obtain ⟨_, timeRead, _⟩ := requiredFields_of_ofJson decoded
  obtain ⟨value, _, denoted⟩ := Json.lookup_of_requiredField timeRead
  obtain ⟨written, _, read⟩ := Json.exists_of_decode_instant denoted
  exact Instant.isValid_of_ofText read

end Envelope

namespace IntegrationEvent

open Envelope

variable {envelope : Envelope Json}

/-- An envelope becomes an integration event if its verdict is good, and otherwise the conversion
fails with the wording of the verdict. -/
theorem ofEnvelope_eq (eventType : String) (envelope : Envelope Json) :
    ofEnvelope eventType envelope =
      match envelope.verdict with
      | .error fault => .error (.conversion eventType fault.message)
      | .ok () =>
        .ok ⟨envelope.eventId, eventType, envelope.toJson.compact, envelope.occurredAt⟩ := by
  have validated := (describes_toJson envelope).validate_eq
  cases said : envelope.verdict <;> simp [ofEnvelope, validated, said]

/-- An envelope becomes an integration event exactly if it says everything. -/
theorem exists_ofEnvelope_eq_ok_iff (eventType : String) :
    (∃ event, ofEnvelope eventType envelope = .ok event) ↔ envelope.SaysEverything := by
  rw [← verdict_eq_ok_iff, ofEnvelope_eq]
  rcases envelope.verdict with fault | ⟨⟨⟩⟩ <;> simp

/-- Decoder, validation and conversion agree on every object that an envelope was decoded from.
Validation accepts the object exactly if the envelope says everything, which is exactly when the
envelope becomes an integration event of any type; otherwise every conversion fails, and with the
wording that validation has for the object. The integration event has the identifier and the time of
the envelope, and its content is read back as that same envelope, if it is read back as the value
that was written; so encoding it again gives the same content.

Proof: the object that was decoded and the object that is encoded describe the same envelope
(`describes_of_ofJson`, `describes_toJson`), and validation depends on the envelope described alone
(`Describes.validate_eq`). So the verdict on the given object is that of the conversion, by
`ofEnvelope_eq`. The content is read back because the time of a decoded envelope is one that a clock
can show (`isValid_occurredAt`). -/
theorem ofEnvelope_agrees_with_validate {fields : List (String × Json)}
    (decoded : ofJson Json.Decoder.any (.object fields) = .ok envelope) :
    (validate (.object fields) = .ok () ↔ envelope.SaysEverything) ∧
      (∀ eventType, (∃ event, ofEnvelope eventType envelope = .ok event) ↔
        envelope.SaysEverything) ∧
      (∀ eventType error, ofEnvelope eventType envelope = .error error ↔
        ∃ fault, validate (.object fields) = .error fault ∧
          error = .conversion eventType fault.message) ∧
      ∀ eventType event, ofEnvelope eventType envelope = .ok event →
        event.id = envelope.eventId ∧ event.occurredOn = envelope.occurredAt ∧
        event.eventType = eventType ∧
        (Json.ofText? event.content = some envelope.toJson →
          Envelope.ofText? event.content = some envelope ∧
          ∀ again, Envelope.ofText? event.content = some again →
            again.toJson.compact = event.content) := by
  have validated := (describes_of_ofJson decoded).validate_eq
  have valid := isValid_occurredAt decoded
  refine ⟨?_, fun eventType => exists_ofEnvelope_eq_ok_iff eventType, ?_, ?_⟩
  · rw [validated, verdict_eq_ok_iff]
  · intro eventType error
    rw [validated, ofEnvelope_eq]
    rcases envelope.verdict with fault | ⟨⟨⟩⟩ <;> simp [eq_comm]
  · intro eventType event converted
    rw [ofEnvelope_eq] at converted
    cases found : envelope.verdict with
    | error fault => simp [found] at converted
    | ok nothing =>
      rw [found] at converted
      cases converted
      refine ⟨rfl, rfl, rfl, fun readable => ?_⟩
      have back : Envelope.ofText? envelope.toJson.compact = some envelope := by
        rw [Envelope.ofText?, readable, Option.bind_some, ofJson_toJson valid]
        rfl
      refine ⟨back, fun again read => ?_⟩
      rw [back] at read
      cases read
      rfl

/-- An object that no encoder writes: the identifier in its longest form and in capitals, a leap
second at an offset, a link as null and a key that no envelope has. -/
def foreignFields : List (String × Json) :=
  [("aggregate_id", .text "42"), ("aggregate_type", .text "order"), ("causation_id", .null),
   ("event_id", .text "urn:uuid:6BA7B810-9DAD-11D1-80B4-00C04FD430C8"),
   ("occurred_at", .text "2017-01-01 00:59:60.5+01:00"),
   ("payload", .object [("lines", .array [.null, .integer 7])]), ("source_module", .text "orders"),
   ("source_version", .text "1.0.0"), ("trace", .bool true)]

/-- The envelope that is decoded from it. -/
def foreign : Envelope Json where
  eventId := ⟨0x6ba7b8109dad11d180b400c04fd430c8⟩
  occurredAt := ⟨1483228799, 1500000000⟩
  sourceModule := "orders"
  sourceVersion := "1.0.0"
  aggregateType := "order"
  aggregateId := "42"
  payload := .object [("lines", .array [.null, .integer 7])]

theorem ofEnvelope_agrees_with_validate_foreign :
    ofJson Json.Decoder.any (.object foreignFields) = .ok foreign ∧
      validate (.object foreignFields) = .ok () ∧
      ∃ event, ofEnvelope "orders.order_placed.v1" foreign = .ok event ∧
        event.id = foreign.eventId ∧ event.occurredOn = foreign.occurredAt ∧
        Envelope.ofText? event.content = some foreign := by
  have id : Identifier.ofText? "urn:uuid:6BA7B810-9DAD-11D1-80B4-00C04FD430C8" =
      some foreign.eventId := by
    decide +kernel
  have time : Instant.ofText "2017-01-01 00:59:60.5+01:00" = .ok foreign.occurredAt := by
    decide +kernel
  have decoded : ofJson Json.Decoder.any (.object foreignFields) = .ok foreign := by
    simp [ofJson, foreignFields, rules, Json.recordFields, Json.checkField, Json.checkPresence,
      Json.FieldRule.required, Json.FieldRule.optional, Json.requiredField, Json.optionalField,
      Json.Decoder.identifier, id, Json.Decoder.instant, time, Json.Decoder.text,
      Json.Decoder.optional, Json.Decoder.any, foreign, Except.map, List.lookup_cons, bind,
      Except.bind, pure, Except.pure]
  have plain : foreign.payload.Plain := by
    refine .object _ (List.pairwise_singleton _ _) ?_
    simp only [List.mem_singleton, forall_eq]
    refine .array _ ?_
    simp only [List.forall_mem_cons]
    exact ⟨.null, .integer 7 (by decide), by simp⟩
  have everything : foreign.SaysEverything := by
    simp [SaysEverything, foreign]
  obtain ⟨accepted, converts, _, carries⟩ := ofEnvelope_agrees_with_validate decoded
  obtain ⟨event, converted⟩ := (converts "orders.order_placed.v1").mpr everything
  obtain ⟨sameId, sameTime, _, readBack⟩ := carries _ event converted
  have content : event.content = foreign.toJson.compact := by
    rw [ofEnvelope_eq, verdict_eq_ok_iff.mpr everything] at converted
    cases converted
    rfl
  have readable : Json.ofText? event.content = some foreign.toJson := by
    rw [content, Json.ofText?_compact (plain_toJson plain)]
  exact ⟨decoded, accepted.mpr everything, event, converted, sameId, sameTime,
    (readBack readable).1⟩

end IntegrationEvent

end OutboxRelay
