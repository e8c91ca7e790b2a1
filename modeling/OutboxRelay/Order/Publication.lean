import OutboxRelay.IntegrationEvent
import OutboxRelay.Order.Basic

/-!
# Published order events

The integration events of orders. Each domain event has one versioned integration event, whose
payload repeats its facts. The dispatcher adds one message to the outbox for every event.
-/

namespace OutboxRelay.Order

open Outbox (Store)

/-- The module that publishes these events. -/
def sourceModule : String := "orders"

/-- Its version. -/
def sourceVersion : String := "1.0.0"

/-- The type under which the events of a kind are published. It carries the version of the
payload. -/
def integrationType : Kind → String
  | .placed => "orders.order_placed.v1"
  | .cancelled => "orders.order_cancelled.v1"

/-- The fields of the payload of an order that was placed, in the order of declaration. -/
def Placed.fields (fact : Placed) : List (String × Json) := [
  ("order_id", .text fact.orderId.toText),
  ("customer_id", .text fact.customerId),
  ("total_cents", .integer fact.totalCents),
  ("placed_at", .text fact.occurredOn.toText)]

/-- The payload of an order that was placed. -/
def Placed.payload (fact : Placed) : Json :=
  .ofFields fact.fields

/-- The fields of the payload of an order that was cancelled, in the order of declaration. -/
def Cancelled.fields (fact : Cancelled) : List (String × Json) := [
  ("order_id", .text fact.orderId.toText),
  ("reason", .text fact.reason),
  ("cancelled_at", .text fact.occurredOn.toText)]

/-- The payload of an order that was cancelled. -/
def Cancelled.payload (fact : Cancelled) : Json :=
  .ofFields fact.fields

/-- The payload of a fact. -/
def payload : (kind : Kind) → EventFamily.Fact kind → Json
  | .placed, fact => Placed.payload fact
  | .cancelled, fact => Cancelled.payload fact

/-- The envelope of a fact under a given identifier. -/
def envelope (id : Identifier) (kind : Kind) (fact : EventFamily.Fact kind) : Envelope Json :=
  IntegrationEvent.envelopeFor id sourceModule sourceVersion kind fact (payload kind fact)

/-- The integration event of a fact under a given identifier. -/
def integrationEvent (id : Identifier) (kind : Kind) (fact : EventFamily.Fact kind) :
    Except Outbox.Error IntegrationEvent :=
  IntegrationEvent.ofEnvelope (integrationType kind) (envelope id kind fact)

variable {σ S : Type}

/-- Convert a fact, drawing the identifier of its integration event. The identifier is drawn even if
the conversion fails. -/
def convert (kind : Kind) (fact : EventFamily.Fact kind) :
    Effect (World σ) Outbox.Error IntegrationEvent := do
  let id ← World.drawId
  match integrationEvent id kind fact with
  | .ok event => return event
  | .error error => throw error

/-- The dispatcher that adds every event of an order to the outbox, with one handler for each
kind. -/
def dispatcher (store : Store σ S) : Dispatcher Kind σ S :=
  Dispatcher.empty
    |>.register .placed (IntegrationEvent.outboxHandler store (convert .placed))
    |>.register .cancelled (IntegrationEvent.outboxHandler store (convert .cancelled))

end OutboxRelay.Order
