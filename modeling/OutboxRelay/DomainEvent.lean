import OutboxRelay.Instant.Basic

/-!
# Domain events

Domain events. The events of an application form a family of types, one for each kind; an event is
a kind together with a fact of its type. Handlers are registered for a kind and receive facts of
exactly that type, so that no handler can meet an event that it does not understand.
-/

namespace OutboxRelay

/-- A family of event types and what is known of every event. The names are stable, since they are
written into messages. -/
class EventFamily (κ : Type) where
  /-- The facts of a kind. -/
  Fact : κ → Type
  /-- The stable name of a kind. -/
  eventType : κ → String
  /-- The aggregates that raise events of a kind. -/
  aggregateType : κ → String
  /-- The aggregate that raised an event. -/
  aggregateId : (kind : κ) → Fact kind → String
  /-- When the fact happened. -/
  occurredOn : (kind : κ) → Fact kind → Instant

/-- An event of a family. -/
structure DomainEvent (κ : Type) [EventFamily κ] where
  kind : κ
  fact : EventFamily.Fact kind

namespace DomainEvent

variable {κ : Type} [EventFamily κ]

/-- The name of the event's kind. -/
def eventType (event : DomainEvent κ) : String :=
  EventFamily.eventType event.kind

/-- The kind of aggregate that raised the event. -/
def aggregateType (event : DomainEvent κ) : String :=
  EventFamily.aggregateType event.kind

/-- The aggregate that raised the event. -/
def aggregateId (event : DomainEvent κ) : String :=
  EventFamily.aggregateId event.kind event.fact

/-- When the fact happened. -/
def occurredOn (event : DomainEvent κ) : Instant :=
  EventFamily.occurredOn event.kind event.fact

end DomainEvent

end OutboxRelay
