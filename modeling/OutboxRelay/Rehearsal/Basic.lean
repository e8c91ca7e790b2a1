import OutboxRelay.Delivery.Loop
import OutboxRelay.Order.Service
import OutboxRelay.Rehearsal.Entity

/-!
# Rehearsals

A rehearsal of an application: a backend with a bus, sessions under names of their own, orders and
entities with the units of work that commit them, and delivery loops in virtual time. What a
rehearsal does is told step by step, and a step that fails still leaves behind what it did.
-/

namespace OutboxRelay

open Rehearsal

/-- An application under rehearsal, on a backend with states `σ` and sessions `S`. -/
structure Rehearsal (σ S : Type) where
  orders : Order.Storage σ S
  bus : Broker.Bus (World σ)
  world : World σ
  dispatcher : Dispatcher Sample.Kind σ S := Dispatcher.empty
  /-- The user that orders and entities are committed for. -/
  user : String := Audit.systemUser
  delivery : Delivery.Config := {}
  /-- Open sessions by name. -/
  sessions : List (String × S) := []
  entities : Entities := []
  /-- Orders by the names given to them. -/
  placed : List (String × Identifier) := []
  /-- The virtual time in milliseconds. -/
  now : Nat := 0
  /-- The delivery loop that can be stopped. -/
  loop : Option Delivery.Loop := none
  /-- Loops that run on because a later one took their place. -/
  strays : List Delivery.Loop := []

namespace Rehearsal

/-- Why a step has no result. -/
inductive Fault where
  | noSession
  | noEntity
  | notRunning
  | bus (cause : Broker.Error)
  | outbox (cause : Outbox.Error)
  | order (cause : Order.Error)

/-- A step of a rehearsal. -/
abbrev Step (σ S α : Type) : Type := Effect (Rehearsal σ S) Fault α

variable {σ S ε α : Type}

/-- The store of the backend. -/
def store (rehearsal : Rehearsal σ S) : Outbox.Store σ S := rehearsal.orders.store

/-- Delivery from the store to the bus. -/
def processor (config : Delivery.Config) (rehearsal : Rehearsal σ S) : Delivery.Processor σ S :=
  { store := rehearsal.store, bus := rehearsal.bus, config }

/-- The service that places and cancels orders. -/
def service (rehearsal : Rehearsal σ S) : Order.Service σ S :=
  { storage := rehearsal.orders, user := rehearsal.user }

/-- Work on the backend. -/
def onWorld (rename : ε → Fault) (effect : Rehearsal σ S → Effect (World σ) ε α) : Step σ S α := do
  let rehearsal ← get
  Effect.mapError rename
    (Effect.onPart (·.world) (fun world r => { r with world }) (effect rehearsal))

/-- Change the state of the backend. -/
def changeState (change : σ → σ) : Step σ S Unit :=
  modify fun r => { r with world := r.world.withState (change r.world.state) }

/-- Look at the state of the backend. -/
def view (look : σ → α) : Step σ S α := do
  return look (← get).world.state

end Rehearsal

end OutboxRelay
