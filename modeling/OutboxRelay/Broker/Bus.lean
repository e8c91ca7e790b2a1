import OutboxRelay.Broker.Config
import OutboxRelay.Broker.Error
import OutboxRelay.Broker.Message
import OutboxRelay.Effect

/-!
# The bus

Where events are published. A bus takes an event type and a payload and either accepts them or
fails; whether it can be used again afterwards does not depend on the outcome. The memory bus keeps
every accepted message in order and counts all attempts. It can be told to refuse one event type or
everything.
-/

namespace OutboxRelay.Broker

/-- A bus on states `σ` for payloads of type `ρ`. It is one operation, and a caller learns no more
than whether it succeeded. -/
structure Bus (σ : Type) (ρ : Type := String) where
  publish : String → ρ → Effect σ Error Unit

/-- A bus that keeps its messages in memory. -/
structure MemoryBus (ρ : Type := String) where
  /-- The subject that every message is kept under. -/
  subject : String
  /-- Accepted messages, the first one first. -/
  published : List (Message ρ) := []
  /-- Event types that are refused. -/
  refused : List String := []
  /-- Whether everything is refused. -/
  unavailable : Bool := false
  /-- Calls, accepted or not. -/
  attempts : Nat := 0
deriving Inhabited

namespace MemoryBus

variable {ρ : Type}

/-- An empty bus for the subject that the settings describe. -/
def ofConfig (config : Config) : MemoryBus ρ := { subject := config.publishSubject }

/-- Why the bus would refuse an event of this type now; an outage takes precedence over a refused
type. -/
def refusal? (bus : MemoryBus ρ) (eventType : String) : Option Error :=
  if bus.unavailable then some (.connection "in-memory bus unavailable")
  else if bus.refused.contains eventType then
    some (.publish s!"publishing {eventType} rejected by in-memory bus")
  else none

/-- The message that an accepted event becomes. -/
def messageFor (bus : MemoryBus ρ) (eventType : String) (payload : ρ) : Message ρ :=
  let properties := Properties.forEvent eventType
  ({ subject := bus.subject, payload } : Message ρ)
    |>.withHeader contentTypeHeader properties.contentType
    |>.withHeader eventTypeHeader properties.eventType

/-- Publish one event: count the attempt, and keep the message unless it is refused. The payload has
no influence on the answer. -/
def publish (eventType : String) (payload : ρ) (bus : MemoryBus ρ) :
    Except Error Unit × MemoryBus ρ :=
  let counted := { bus with attempts := bus.attempts + 1 }
  match bus.refusal? eventType with
  | some error => (.error error, counted)
  | none =>
    (.ok (), { counted with published := bus.published ++ [bus.messageFor eventType payload] })

/-- Refuse events of one type from now on. -/
def refuse (eventType : String) (bus : MemoryBus ρ) : MemoryBus ρ :=
  { bus with refused := eventType :: bus.refused }

/-- Refuse everything, or stop doing so. -/
def setUnavailable (unavailable : Bool) (bus : MemoryBus ρ) : MemoryBus ρ :=
  { bus with unavailable }

/-- Accept everything again. -/
def clearFailures (bus : MemoryBus ρ) : MemoryBus ρ :=
  { bus with refused := [], unavailable := false }

/-- The memory bus by itself. -/
def bus : Bus (MemoryBus ρ) ρ where
  publish eventType payload := Effect.ofPair (publish eventType payload)

/-- Every call counts as an attempt. -/
theorem attempts_publish (eventType : String) (payload : ρ) (bus : MemoryBus ρ) :
    (bus.publish eventType payload).2.attempts = bus.attempts + 1 := by
  unfold publish
  split <;> rfl

/-- A message is kept exactly when the call succeeds. -/
theorem published_publish (eventType : String) (payload : ρ) (bus : MemoryBus ρ) :
    (bus.publish eventType payload).2.published =
      bus.published ++
        (if (bus.refusal? eventType).isNone then [bus.messageFor eventType payload] else []) := by
  unfold publish
  split <;> simp_all

end MemoryBus

end OutboxRelay.Broker
