import OutboxRelay.Order.Publication
import OutboxRelay.Order.Record
import OutboxRelay.UnitOfWork

/-!
# Order operations

What can be done with orders. Every change is committed as a unit of work of one order, so that the
order's row and the messages of its events become durable together. An order is read outside any
session, before it is changed.
-/

namespace OutboxRelay.Order

open Outbox (InSession Store)

/-- Where orders are kept: a store, a way to read an order and a way to write one. Reading goes past
the sessions of the store. -/
structure Storage (σ S : Type) where
  store : Store σ S
  find : Identifier → Effect (World σ) Error (Option Order)
  persist : Change → Order → InSession σ S UInt64

/-- The storage on one part of a larger state. -/
def Storage.onPart {σ τ S : Type} (part : τ → σ) (replace : σ → τ → τ) (storage : Storage σ S) :
    Storage τ S where
  store := storage.store.onPart part replace
  find id := World.onPart part replace (storage.find id)
  persist change order := InSession.onPart part replace (storage.persist change order)

/-- The service on behalf of a user. -/
structure Service (σ S : Type) where
  storage : Storage σ S
  user : String

/-- How a unit of work handles orders: they are aggregate roots, so that all of them may raise
events. -/
def model {σ S : Type} (persist : Change → Order → InSession σ S UInt64) :
    EntityModel Order Kind σ S where
  audit := (·.audit)
  withAudit audit order := { order with audit }
  pending? order := some order.pending
  clearPending := clearPending
  persist := persist

/-- Give the outcome of a check to the surrounding computation. -/
def checked {σ ε α : Type} : Except ε α → Effect σ ε α
  | .ok value => pure value
  | .error error => throw error

namespace Service

variable {σ S : Type}

/-- The unit of work that commits orders. -/
def work (service : Service σ S) : UnitOfWork Order Kind σ S where
  store := service.storage.store
  model := model service.storage.persist
  dispatcher := dispatcher service.storage.store
  user := service.user

/-- Commit one order and give it back as the commit leaves it, with its audit fields stamped and its
events taken off. -/
def save (service : Service σ S) (change : Change) (order : Order) :
    Effect (World σ) Error Order := do
  let (result, settled) ← Effect.ofState (service.work.commit [⟨change, order⟩])
  match result with
  | .error error => throw (.outbox error)
  | .ok _ => return (settled.head?.map (·.entity)).getD order

/-- Place an order. The request is checked before an identifier is drawn, so that a refused one
changes nothing at all. -/
def placeOrder (service : Service σ S) (customerId : String) (totalCents : Int) :
    Effect (World σ) Error Order := do
  let kept ← checked (acceptCustomer customerId totalCents)
  let id ← World.drawId
  let now ← World.readClock
  service.save .added (placed id kept totalCents now)

/-- The order under an identifier. -/
def getOrder (service : Service σ S) (id : Identifier) : Effect (World σ) Error Order := do
  match ← service.storage.find id with
  | some order => return order
  | none => throw (.notFound id)

/-- Cancel an order. The order is read first and written later; nothing keeps another call from
changing it in between. -/
def cancelOrder (service : Service σ S) (id : Identifier) (reason : String) :
    Effect (World σ) Error Order := do
  let order ← service.getOrder id
  let kept ← checked (order.acceptReason reason)
  let now ← World.readClock
  service.save .modified (order.cancelledFor kept now)

end Service

end OutboxRelay.Order
