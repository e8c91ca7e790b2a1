import OutboxRelay.Dispatcher
import OutboxRelay.Envelope
import OutboxRelay.Outbox.Store

/-!
# Integration events

Integration events, the form in which domain events leave the application. An integration event is
made from an envelope whose JSON form passes validation; its content is the canonical text of that
form. The outbox message takes its identifier and its time from the envelope, so that consumers and
the outbox mean the same thing by them.
-/

namespace OutboxRelay

open Outbox (Store)

/-- A domain event in a form that can be published. -/
structure IntegrationEvent where
  id : Identifier
  eventType : String
  content : String
  occurredOn : Instant
deriving DecidableEq, Inhabited

namespace IntegrationEvent

/-- The event of a type in an envelope, provided that the envelope is valid. A fault is reported
with the type of the event that could not be made. -/
def ofEnvelope (eventType : String) (envelope : Envelope Json) :
    Except Outbox.Error IntegrationEvent :=
  match Envelope.validate envelope.toJson with
  | .error fault => .error (.conversion eventType fault.message)
  | .ok () =>
    .ok {
      id := envelope.eventId
      eventType
      content := envelope.toJson.compact
      occurredOn := envelope.occurredAt }

/-- The message that the event is added to the outbox as, with no attempt behind it. -/
def toMessage (event : IntegrationEvent) : Outbox.Message :=
  .fresh event.id event.eventType event.content event.occurredOn

/-- The envelope of a domain event under a given identifier. -/
def envelopeFor {κ : Type} [EventFamily κ] (id : Identifier) (sourceModule sourceVersion : String)
    (kind : κ) (fact : EventFamily.Fact kind) (payload : Json) : Envelope Json where
  eventId := id
  occurredAt := EventFamily.occurredOn kind fact
  sourceModule
  sourceVersion
  aggregateType := EventFamily.aggregateType kind
  aggregateId := EventFamily.aggregateId kind fact
  payload

/-- The handler that converts every fact of a kind and adds the result to the outbox. -/
def outboxHandler {κ σ S : Type} [EventFamily κ] {kind : κ} (store : Store σ S)
    (convert : EventFamily.Fact kind → Effect (World σ) Outbox.Error IntegrationEvent) :
    Handler σ S kind := fun fact => do
  let event ← World.outside (convert fact)
  store.add event.toMessage

end IntegrationEvent

end OutboxRelay
