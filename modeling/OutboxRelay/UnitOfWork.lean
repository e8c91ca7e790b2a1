import OutboxRelay.Audit
import OutboxRelay.Dispatcher
import OutboxRelay.Outbox.Store

/-!
# Units of work

The one way in which business writes are committed. A commit stamps the audit fields of every
tracked entity with one user and one reading of the clock, takes the pending events off the
aggregate roots, writes the entities through a session in the order of tracking, hands the events
on within that session, and commits it. Events are therefore handed on only after every write
succeeded, and what the handlers stage shares the fate of the writes. A failure abandons the
session; the events stay taken off.
-/

namespace OutboxRelay

open Outbox (InSession Store)

/-- An entity that takes part in a unit of work, and what is to be done with it. Only tracked
entities are stamped and written. -/
structure Tracked (ε : Type) where
  change : Change
  entity : ε

/-- What a unit of work needs to know of entities `ε`. Entities of several types may share one
model, and some of them may raise no events. -/
structure EntityModel (ε κ σ S : Type) [EventFamily κ] where
  audit : ε → Audit
  withAudit : Audit → ε → ε
  /-- The pending events of an aggregate root; entities that are none raise no events. -/
  pending? : ε → Option (List (DomainEvent κ))
  clearPending : ε → ε
  /-- Write the entity and say how many rows that took. Rows are counted in machine words. -/
  persist : Change → ε → InSession σ S UInt64

/-- A unit of work on behalf of a user. -/
structure UnitOfWork (ε κ σ S : Type) [EventFamily κ] where
  store : Store σ S
  model : EntityModel ε κ σ S
  dispatcher : Dispatcher κ σ S
  user : String

namespace UnitOfWork

variable {ε κ σ S α : Type} [EventFamily κ]

/-- The same store and dispatcher, on behalf of another user. -/
def forUser (user : String) (work : UnitOfWork ε κ σ S) : UnitOfWork ε κ σ S :=
  { work with user }

/-- Stamp the audit fields of an entity. All entities of one commit get the same user and the same
moment. -/
def stamp (work : UnitOfWork ε κ σ S) (now : Instant) (tracked : Tracked ε) : Tracked ε :=
  let audit := (work.model.audit tracked.entity).stamp tracked.change work.user now
  { tracked with entity := work.model.withAudit audit tracked.entity }

/-- The events that are taken off an entity, in the order in which they were raised. An entity that
is no aggregate root has none. -/
def harvested (work : UnitOfWork ε κ σ S) (tracked : Tracked ε) : List (DomainEvent κ) :=
  (work.model.pending? tracked.entity).getD []

/-- The entity once its events are taken off; only aggregate roots have any to lose. -/
def cleared (work : UnitOfWork ε κ σ S) (tracked : Tracked ε) : Tracked ε :=
  match work.model.pending? tracked.entity with
  | some _ => { tracked with entity := work.model.clearPending tracked.entity }
  | none => tracked

/-- Write entities in order and add up their rows. A sum beyond a word wraps around. The first
failure ends the writing. -/
def persistAll (work : UnitOfWork ε κ σ S) : List (Tracked ε) → InSession σ S UInt64
  | [] => return 0
  | tracked :: rest => do
    let rows ← work.model.persist tracked.change tracked.entity
    let others ← persistAll work rest
    return rows + others

/-- Run a computation in a session of its own: commit the session if the computation succeeds and
abandon it otherwise. If the session cannot be opened, the computation does not run; if it cannot be
abandoned, that failure is the one that counts. -/
def inSession (store : Store σ S) (body : InSession σ S α) : Effect (World σ) Outbox.Error α := do
  let session ← store.begin
  let (result, session) ← Effect.ofState fun world =>
    let (result, world, session) := body.perform (world, session)
    ((result, session), world)
  match result with
  | .ok value =>
    store.commit session
    return value
  | .error failure =>
    store.abandon session
    throw failure

/-- Stage the writes of entities that are stamped and cleared, then hand their events on. Both
happen in one session, so that handlers see a write before it is committed and share its fate. -/
def stage (work : UnitOfWork ε κ σ S) (entities : List (Tracked ε))
    (events : List (DomainEvent κ)) : InSession σ S UInt64 := do
  let rows ← work.persistAll entities
  work.dispatcher.dispatch events
  return rows

/-- Make the writes of entities and all that their events lead to durable together. -/
def write (work : UnitOfWork ε κ σ S) (entities : List (Tracked ε))
    (events : List (DomainEvent κ)) : Effect (World σ) Outbox.Error UInt64 :=
  inSession work.store (work.stage entities events)

/-- Commit the tracked entities. The answer is the number of rows written or the first failure, and
in either case the entities as the commit leaves them. Events are taken off even if the commit
fails; it is up to the caller to raise them again. -/
def commit (work : UnitOfWork ε κ σ S) (tracked : List (Tracked ε)) :
    StateM (World σ) (Except Outbox.Error UInt64 × List (Tracked ε)) := fun world =>
  let now := world.clock world.readings
  let world := { world with readings := world.readings + 1 }
  let stamped := tracked.map (work.stamp now)
  let events := stamped.flatMap work.harvested
  let settled := stamped.map work.cleared
  let (result, world) := (work.write settled events).perform world
  ((result, settled), world)

end UnitOfWork

end OutboxRelay
