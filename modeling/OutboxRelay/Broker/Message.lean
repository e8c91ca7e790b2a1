import OutboxRelay.Fields

/-!
# Broker messages

Messages as the broker receives them, and the properties that every event is published with. Nothing
here looks into a payload, so that it may be of any type; the events of this relay are texts.
-/

namespace OutboxRelay.Broker

/-- The content type of every event. -/
def jsonContentType : String := "application/json"

/-- The header that carries the content type. -/
def contentTypeHeader : String := "Content-Type"

/-- The header by which a consumer selects its decoder. -/
def eventTypeHeader : String := "type"

/-- A message handed to the broker, with a payload of type `ρ`. -/
structure Message (ρ : Type := String) where
  /-- The subject with all its tokens. -/
  subject : String
  payload : ρ
  /-- Properties by name, each name once. -/
  headers : List (String × String) := []
deriving DecidableEq, Inhabited

namespace Message

variable {ρ : Type}

/-- Set a property. -/
def withHeader (name value : String) (message : Message ρ) : Message ρ :=
  { message with headers := Fields.insert name value message.headers }

/-- The event type, if the message carries one. -/
def eventType? (message : Message ρ) : Option String :=
  message.headers.lookup eventTypeHeader

end Message

/-- The properties that an event is published with. -/
structure Properties where
  contentType : String
  eventType : String
  /-- Whether the broker keeps the message across its own restarts. -/
  persistent : Bool
deriving DecidableEq, Inhabited

/-- Every event is a durable JSON message of its own type. -/
def Properties.forEvent (eventType : String) : Properties :=
  ⟨jsonContentType, eventType, true⟩

end OutboxRelay.Broker
