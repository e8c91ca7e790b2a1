import OutboxRelay.Instant.Printer
import OutboxRelay.Json.Decode

/-!
# Outbox messages

Messages of the outbox. A message is done once it carries the time of its first successful publish;
its retry count says how many attempts have failed since it was added or last reset. A message is
exhausted when it is not done and its count has reached the ceiling, and is retried otherwise.
-/

namespace OutboxRelay.Outbox

/-- A durable integration event. -/
structure Message where
  id : Identifier
  /-- The schema of the content; consumers select their decoder by it. -/
  eventType : String
  /-- The event itself, which the outbox never looks into. -/
  content : String
  /-- When the business fact happened. -/
  occurredOn : Instant
  processedOn : Option Instant
  /-- The last failure. -/
  error : Option String
  retryCount : Int
deriving DecidableEq, Inhabited

/-- What one publish attempt needs of a message. -/
structure Pending where
  id : Identifier
  eventType : String
  content : String
  retryCount : Int
deriving DecidableEq, Inhabited

namespace Message

/-- A message that no attempt has been made for. -/
def fresh (id : Identifier) (eventType content : String) (occurredOn : Instant) : Message :=
  { id, eventType, content, occurredOn, processedOn := none, error := none, retryCount := 0 }

/-- The message as it is added, whatever attempts it says were made. -/
def asAdded (message : Message) : Message :=
  fresh message.id message.eventType message.content message.occurredOn

/-- Whether the message was published. -/
def isProcessed (message : Message) : Bool :=
  message.processedOn.isSome

/-- Whether the message ran out of retries without ever being published. -/
def isExhausted (ceiling : Int) (message : Message) : Bool :=
  !message.isProcessed && ceiling ≤ message.retryCount

/-- Whether another attempt is due. -/
def isRetryable (ceiling : Int) (message : Message) : Bool :=
  !message.isProcessed && message.retryCount < ceiling

/-- The part that a publish attempt needs. -/
def toPending (message : Message) : Pending :=
  ⟨message.id, message.eventType, message.content, message.retryCount⟩

/-- Record the time of a publish; the first one stays. -/
def processedAt (now : Instant) (message : Message) : Message :=
  { message with processedOn := some (message.processedOn.getD now) }

/-- Record a failed attempt; the count never falls. -/
def failedWith (error : String) (retryCount : Int) (message : Message) : Message :=
  { message with error := some error, retryCount := max message.retryCount retryCount }

/-- Forget all failed attempts. -/
def reset (message : Message) : Message :=
  { message with error := none, retryCount := 0 }

/-- The message as a JSON object. -/
def toJson (message : Message) : Json :=
  .ofFields [
    ("id", .text message.id.toText),
    ("type", .text message.eventType),
    ("content", .text message.content),
    ("occurred_on", .text message.occurredOn.toText),
    ("processed_on", .ofOption (.text ·.toText) message.processedOn),
    ("error", .ofOption .text message.error),
    ("retry_count", .integer message.retryCount)]

/-- What a JSON message must look like. -/
def rules : List Json.FieldRule := [
  .required "id" Json.Decoder.identifier,
  .required "type" Json.Decoder.text,
  .required "content" Json.Decoder.text,
  .required "occurred_on" Json.Decoder.instant,
  .optional "processed_on" Json.Decoder.instant,
  .optional "error" Json.Decoder.text,
  .required "retry_count" Json.Decoder.integer32]

/-- Decode a JSON message. -/
def ofJson : Json.Decoder Message := fun value => do
  let fields ← Json.recordFields "struct OutboxMessage" rules value
  return {
    id := ← Json.requiredField "id" Json.Decoder.identifier fields
    eventType := ← Json.requiredField "type" Json.Decoder.text fields
    content := ← Json.requiredField "content" Json.Decoder.text fields
    occurredOn := ← Json.requiredField "occurred_on" Json.Decoder.instant fields
    processedOn := ← Json.optionalField "processed_on" Json.Decoder.instant fields
    error := ← Json.optionalField "error" Json.Decoder.text fields
    retryCount := ← Json.requiredField "retry_count" Json.Decoder.integer32 fields }

/-- A message that is not done is either retryable or exhausted, never both. -/
theorem isRetryable_eq_not_isExhausted (ceiling : Int) (message : Message)
    (unprocessed : message.isProcessed = false) :
    message.isRetryable ceiling = !message.isExhausted ceiling := by
  simp only [isRetryable, isExhausted, unprocessed, Bool.not_false, Bool.true_and]
  by_cases under : message.retryCount < ceiling
  · simp [under, Int.not_le.2 under]
  · simp [under, Int.not_lt.1 under]

end Message

end OutboxRelay.Outbox
