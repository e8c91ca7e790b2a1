import OutboxRelay.Outbox.Error
import OutboxRelay.Outbox.Message
import OutboxRelay.World

/-!
# Storage backends

What the outbox asks of a storage backend. Writes are staged in a session and become durable
together when the session is committed, or not at all when it is abandoned; a message is added
through the session of the business write, so that it shares that write's fate. All other
operations stand alone and belong to the delivery of messages.
-/

namespace OutboxRelay.Outbox

/-- A computation within a session of the committing unit of work. It sees the world outside the
session, and what the session has staged. -/
abbrev InSession (σ S α : Type) : Type := Effect (World σ × S) Error α

/-- A computation within a session, on one part of a larger state. -/
def InSession.onPart {σ τ S α : Type} (part : τ → σ) (replace : σ → τ → τ)
    (body : InSession σ S α) : InSession τ S α :=
  Effect.onPart (fun (whole, session) => (whole.withState (part whole.state), session))
    (fun (small, session) (whole, _) =>
      (small.withState (replace small.state whole.state), session)) body

/-- A backend on states `σ` with sessions `S`. Nothing is promised of it here; what the outbox
relies on is proved for each backend. -/
structure Store (σ S : Type) where
  /-- Open a session. -/
  begin : Effect (World σ) Error S
  /-- Make the writes of a session durable; after a failure the session is gone as well. -/
  commit : S → Effect (World σ) Error Unit
  /-- Discard a session. -/
  abandon : S → Effect (World σ) Error Unit
  /-- Stage a message, with no attempt behind it. -/
  add : Message → InSession σ S Unit
  /-- Up to a number of messages that are not done, oldest first; none for a negative number. -/
  getUnprocessed : Int → Effect (World σ) Error (List Pending)
  /-- The same, of the messages below the ceiling. -/
  getRetryable : Int → Int → Effect (World σ) Error (List Pending)
  /-- The same, of the messages that ran out of retries, in full. -/
  getExhausted : Int → Int → Effect (World σ) Error (List Message)
  /-- Record a publish; a second time changes nothing. -/
  markAsProcessed : Identifier → Effect (World σ) Error Unit
  /-- Record a failed attempt. -/
  markAsFailed : Identifier → String → Int → Effect (World σ) Error Unit
  /-- Give a message that is not done all its retries back. -/
  resetRetries : Identifier → Effect (World σ) Error Unit

/-- The store on one part of a larger state. -/
def Store.onPart {σ τ S : Type} (part : τ → σ) (replace : σ → τ → τ) (store : Store σ S) :
    Store τ S where
  begin := World.onPart part replace store.begin
  commit session := World.onPart part replace (store.commit session)
  abandon session := World.onPart part replace (store.abandon session)
  add message := InSession.onPart part replace (store.add message)
  getUnprocessed limit := World.onPart part replace (store.getUnprocessed limit)
  getRetryable limit ceiling := World.onPart part replace (store.getRetryable limit ceiling)
  getExhausted limit ceiling := World.onPart part replace (store.getExhausted limit ceiling)
  markAsProcessed id := World.onPart part replace (store.markAsProcessed id)
  markAsFailed id error retryCount :=
    World.onPart part replace (store.markAsFailed id error retryCount)
  resetRetries id := World.onPart part replace (store.resetRetries id)

end OutboxRelay.Outbox
