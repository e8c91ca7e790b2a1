import OutboxRelay.Audit
import OutboxRelay.DomainEvent
import OutboxRelay.Order.Error
import OutboxRelay.Order.Status
import OutboxRelay.Text.Blank

/-!
# Orders

Orders. An order is placed for a customer and may be cancelled once, for a reason. Placing and
cancelling each raise one domain event, which stays pending until a unit of work takes it off. A
customer and a reason are kept without the blanks around them, and neither may then be empty.
-/

namespace OutboxRelay

namespace Order

/-- The kinds of events that orders raise. -/
inductive Kind where
  | placed
  | cancelled
deriving DecidableEq, Repr

/-- An order was placed. -/
structure Placed where
  orderId : Identifier
  customerId : String
  totalCents : Int
  occurredOn : Instant
deriving DecidableEq

/-- An order was cancelled. -/
structure Cancelled where
  orderId : Identifier
  reason : String
  occurredOn : Instant
deriving DecidableEq

/-- The name under which orders appear as aggregates. -/
def aggregateName : String := "order"

/-- The facts of a kind. -/
abbrev FactOf : Kind → Type
  | .placed => Placed
  | .cancelled => Cancelled

instance : EventFamily Kind where
  Fact := FactOf
  eventType
    | .placed => "order.placed"
    | .cancelled => "order.cancelled"
  aggregateType _ := aggregateName
  aggregateId
    | .placed, fact => Placed.orderId fact |>.toText
    | .cancelled, fact => Cancelled.orderId fact |>.toText
  occurredOn
    | .placed, fact => Placed.occurredOn fact
    | .cancelled, fact => Cancelled.occurredOn fact

/-- An event that an order raises. -/
abbrev Event : Type := DomainEvent Kind

/-- The event that an order was placed. -/
def placedEvent (fact : Placed) : Event := ⟨.placed, fact⟩

/-- The event that an order was cancelled. -/
def cancelledEvent (fact : Cancelled) : Event := ⟨.cancelled, fact⟩

end Order

/-- An order with the events that it has raised since it was last committed. -/
structure Order where
  id : Identifier
  customerId : String
  totalCents : Int
  status : Order.Status
  cancelReason : Option String
  audit : Audit
  pending : List Order.Event

namespace Order

/-- A customer as it is kept, provided that an order can be placed for it at this total. -/
def acceptCustomer (customerId : String) (totalCents : Int) : Except Error String :=
  let kept := Text.trim customerId
  if kept.isEmpty then .error (.validation "customer_id cannot be empty")
  else if totalCents ≤ 0 then
    .error (.validation s!"total_cents must be positive, got {totalCents}")
  else .ok kept

/-- The order that is placed, with its event pending. -/
def placed (id : Identifier) (customerId : String) (totalCents : Int) (now : Instant) : Order where
  id
  customerId
  totalCents
  status := .placed
  cancelReason := none
  audit := {}
  pending := [placedEvent ⟨id, customerId, totalCents, now⟩]

/-- Place an order. -/
def place (id : Identifier) (now : Instant) (customerId : String) (totalCents : Int) :
    Except Error Order :=
  (acceptCustomer customerId totalCents).map fun kept => placed id kept totalCents now

/-- A reason as it is kept, provided that the order can be cancelled for it. Whether the order was
cancelled before is looked at first. -/
def acceptReason (reason : String) (order : Order) : Except Error String :=
  if order.status = .cancelled then .error (.alreadyCancelled order.id)
  else
    let kept := Text.trim reason
    if kept.isEmpty then .error (.validation "cancel reason cannot be empty") else .ok kept

/-- The order once it is cancelled, with the event of that pending as well. -/
def cancelledFor (reason : String) (now : Instant) (order : Order) : Order :=
  { order with
    status := .cancelled
    cancelReason := some reason
    pending := order.pending ++ [cancelledEvent ⟨order.id, reason, now⟩] }

/-- Cancel an order. -/
def cancel (reason : String) (now : Instant) (order : Order) : Except Error Order :=
  (order.acceptReason reason).map fun kept => order.cancelledFor kept now

/-- The order without its pending events. -/
def clearPending (order : Order) : Order :=
  { order with pending := [] }

/-- An order that was cancelled cannot be cancelled again, whatever the reason. -/
theorem cancel_of_cancelled {order : Order} (done : order.status = .cancelled) (reason : String)
    (now : Instant) : order.cancel reason now = .error (.alreadyCancelled order.id) := by
  simp [cancel, acceptReason, done, Except.map]

end Order

end OutboxRelay
