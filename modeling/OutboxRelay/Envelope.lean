import OutboxRelay.Instant.Printer
import OutboxRelay.Json.Decode
import OutboxRelay.Json.Printer

/-!
# Event envelopes

The envelope around every integration event. It says which event this is, when the business fact
happened, which module and which aggregate it comes from, and carries the payload. Consumers use
the event's identifier to recognise repeated deliveries. Two texts exist: the fields in the order
of declaration, and the canonical form with the keys of every object in order. Validation works on
the JSON value alone and demands less than decoding does: it never looks inside the time.
-/

namespace OutboxRelay

/-- An integration event with a payload of type `α`. -/
structure Envelope (α : Type) where
  eventId : Identifier
  occurredAt : Instant
  sourceModule : String
  sourceVersion : String
  aggregateType : String
  aggregateId : String
  correlationId : Option String := none
  causationId : Option String := none
  payload : α

/-- What validation finds wrong with a JSON envelope. It names the field that is at fault. -/
inductive EnvelopeFault where
  /-- A field is absent or of the wrong kind. -/
  | unusable (field : String)
  /-- A field that has to say something is empty. -/
  | empty (field : String)
  /-- There is no payload. -/
  | noPayload
deriving DecidableEq, Repr

/-- The wording of a fault. -/
def EnvelopeFault.message : EnvelopeFault → String
  | unusable field => "Missing or invalid " ++ field
  | empty field => field ++ " cannot be empty"
  | noPayload => "Missing payload"

namespace Envelope

variable {α β : Type}

/-- The version of a module that states none. -/
def defaultVersion : String := "1.0.0"

/-- The same envelope around another payload. -/
def mapPayload (f : α → β) (envelope : Envelope α) : Envelope β :=
  { envelope with payload := f envelope.payload }

/-- The fields in the order of declaration; absent links are not written. -/
def fields (envelope : Envelope Json) : List (String × Json) :=
  [("event_id", .text envelope.eventId.toText),
   ("occurred_at", .text envelope.occurredAt.toText),
   ("source_module", .text envelope.sourceModule),
   ("source_version", .text envelope.sourceVersion),
   ("aggregate_type", .text envelope.aggregateType),
   ("aggregate_id", .text envelope.aggregateId)] ++
  Json.presentField "correlation_id" .text envelope.correlationId ++
  Json.presentField "causation_id" .text envelope.causationId ++
  [("payload", envelope.payload)]

/-- The envelope as a JSON object with its keys in order. This is the form that is published. -/
def toJson (envelope : Envelope Json) : Json :=
  .ofFields envelope.fields

/-- The envelope as a text with its fields in the order of declaration. -/
def toText (envelope : Envelope Json) : String :=
  (Json.object envelope.fields).compact

/-- What a JSON envelope must look like. The rules are checked field by field in the order of the
object, and only then is it asked which fields are missing. -/
def rules (payload : Json.Decoder α) : List Json.FieldRule := [
  .required "event_id" Json.Decoder.identifier,
  .required "occurred_at" Json.Decoder.instant,
  .required "source_module" Json.Decoder.text,
  .required "source_version" Json.Decoder.text,
  .required "aggregate_type" Json.Decoder.text,
  .required "aggregate_id" Json.Decoder.text,
  .optional "correlation_id" Json.Decoder.text,
  .optional "causation_id" Json.Decoder.text,
  .required "payload" payload]

/-- Decode a JSON envelope. -/
def ofJson (payload : Json.Decoder α) : Json.Decoder (Envelope α) := fun value => do
  let fields ← Json.recordFields "struct EventEnvelope" (rules payload) value
  return {
    eventId := ← Json.requiredField "event_id" Json.Decoder.identifier fields
    occurredAt := ← Json.requiredField "occurred_at" Json.Decoder.instant fields
    sourceModule := ← Json.requiredField "source_module" Json.Decoder.text fields
    sourceVersion := ← Json.requiredField "source_version" Json.Decoder.text fields
    aggregateType := ← Json.requiredField "aggregate_type" Json.Decoder.text fields
    aggregateId := ← Json.requiredField "aggregate_id" Json.Decoder.text fields
    correlationId := ← Json.optionalField "correlation_id" Json.Decoder.text fields
    causationId := ← Json.optionalField "causation_id" Json.Decoder.text fields
    payload := ← Json.requiredField "payload" payload fields }

/-- The text under a key of a JSON envelope. -/
def textField? (key : String) (envelope : Json) : Option String :=
  (envelope.get? key).bind Json.text?

/-- The fields that must be texts with something in them, in the order of validation. -/
def namedFields : List String :=
  ["source_module", "source_version", "aggregate_type", "aggregate_id"]

/-- A field that must be a text with something in it. -/
def validateNamed (envelope : Json) (field : String) : Except EnvelopeFault Unit :=
  match textField? field envelope with
  | none => .error (.unusable field)
  | some value => if value.isEmpty then .error (.empty field) else .ok ()

/-- Validate a JSON envelope; the first fault counts. The identifier must be readable; of the time
it is asked only whether it is a text. -/
def validate (envelope : Json) : Except EnvelopeFault Unit := do
  if ((textField? "event_id" envelope).bind Identifier.ofText?).isNone then
    throw (.unusable "event_id")
  if (textField? "occurred_at" envelope).isNone then throw (.unusable "occurred_at")
  namedFields.forM (validateNamed envelope)
  if (envelope.get? "payload").isNone then throw .noPayload

end Envelope

end OutboxRelay
