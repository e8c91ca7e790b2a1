import OutboxRelay.IntegrationEvent
import OutboxRelay.Rehearsal.Sample
import OutboxRelay.Rehearsal.Site

/-!
# Described handlers

Handlers of sample events that are described by data. A recorder logs what it is given and may
write a row; a converter publishes the fact as an integration event. Either may refuse one amount:
the recorder after its row was staged, the converter before it makes anything.
-/

namespace OutboxRelay.Rehearsal

open Outbox (Session)
open Sample (Fact Kind)

/-- The kind of failure that a refusal is reported as. -/
inductive RefusalKind where
  | store
  | conversion
  | bus
  | handler
deriving DecidableEq, Repr

/-- Refuse facts of one amount. -/
structure Refusal where
  amount : Int
  kind : RefusalKind
  reason : String

/-- The failure that a refusal is. -/
def Refusal.error (eventType : String) (refusal : Refusal) : Outbox.Error :=
  match refusal.kind with
  | .store => .store refusal.reason
  | .conversion => .conversion eventType refusal.reason
  | .bus => .bus (.publish refusal.reason)
  | .handler => .handler eventType refusal.reason

/-- Fail if the fact is one that is refused. -/
def refuse {σ : Type} (refusal? : Option Refusal) (eventType : String) (fact : Fact) :
    Effect σ Outbox.Error Unit :=
  match refusal? with
  | some refusal =>
    if fact.amount = refusal.amount then throw (refusal.error eventType) else pure ()
  | none => pure ()

/-- A handler that logs what it is given. -/
structure Recorder where
  name : String
  /-- The table that a row is written to for every fact. -/
  table : Option String
  refusal : Option Refusal

/-- A handler that publishes. -/
structure Converter where
  eventType : String
  source : String
  version : Option String
  eventId : Option Identifier
  correlationId : Option String
  refusal : Option Refusal

/-- A handler described by data. -/
inductive Reaction where
  | record (recorder : Recorder)
  | convert (converter : Converter)

/-- The line that a recorder logs. -/
def Recorder.line (recorder : Recorder) (kind : Kind) (fact : Fact) (staged : Nat) : String :=
  s!"{recorder.name}: {EventFamily.eventType kind} {fact.aggregate} {fact.amount} staged={staged}"

/-- The handler that a recorder describes. -/
def Recorder.handler (recorder : Recorder) (kind : Kind) : Handler Site Session kind :=
  fun (fact : Fact) => do
    Effect.ofState fun (world, session) =>
      let line := recorder.line kind fact session.outbox.length
      let session := match recorder.table with
        | some table => session.putRow table fact.aggregate fact.payload
        | none => session
      ((), world.withState (world.state.note line), session)
    refuse recorder.refusal (EventFamily.eventType kind) fact

/-- The integration event that a converter makes of a fact. -/
def Converter.convert (converter : Converter) (kind : Kind) (fact : Fact) :
    Effect (World Site) Outbox.Error IntegrationEvent := do
  refuse converter.refusal (EventFamily.eventType kind) fact
  let drawn ← World.drawId
  let envelope := IntegrationEvent.envelopeFor (converter.eventId.getD drawn) converter.source
    (converter.version.getD Envelope.defaultVersion) kind fact fact.payload
  match IntegrationEvent.ofEnvelope converter.eventType
      { envelope with correlationId := converter.correlationId } with
  | .ok event => return event
  | .error error => throw error

/-- The handler that a description describes. -/
def Reaction.handler (kind : Kind) : Reaction → Handler Site Session kind
  | record recorder => recorder.handler kind
  | convert converter => IntegrationEvent.outboxHandler Site.store (converter.convert kind)

end OutboxRelay.Rehearsal
