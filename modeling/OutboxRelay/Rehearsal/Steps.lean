import OutboxRelay.Rehearsal.Basic

/-!
# Steps of a rehearsal

The steps of a rehearsal that any backend can take. Steps on a session find it by its name; a name
is free again once its session is committed or dropped, whatever the outcome. A session begun under
a name that is taken gives up the one that has it.
-/

namespace OutboxRelay.Rehearsal

open Outbox (InSession)

variable {σ S α : Type}

/-! ### Sessions -/

/-- The open session of a name. -/
def session (name : String) : Step σ S S := do
  match (← get).sessions.lookup name with
  | some session => return session
  | none => throw .noSession

/-- Put a session under a name. -/
def keepSession (name : String) (session : S) : Step σ S Unit :=
  modify fun r => { r with sessions := Fields.insert name session r.sessions }

/-- Take the session off its name. -/
def takeSession (name : String) : Step σ S S := do
  let taken ← session name
  modify fun r => { r with sessions := Fields.erase name r.sessions }
  return taken

/-- Work in a session; what was staged before a failure stays staged. -/
def inSession (name : String) (body : Rehearsal σ S → InSession σ S α) :
    Step σ S (Except Outbox.Error α) := do
  let opened ← session name
  let rehearsal ← get
  let (result, world, left) := Effect.perform (body rehearsal) (rehearsal.world, opened)
  modify fun r => { r with world }
  keepSession name left
  return result

/-- Give a session up. -/
def abandon (session : S) : Step σ S Unit :=
  onWorld .outbox fun r => r.store.abandon session

/-- Open a session. -/
def begin (name : String) : Step σ S Unit := do
  let opened ← onWorld .outbox fun r => r.store.begin
  match (← get).sessions.lookup name with
  | some earlier => abandon earlier
  | none => pure ()
  keepSession name opened

/-- Stage messages, each on its own. -/
def add (name : String) (messages : List Outbox.Message) :
    Step σ S (List (Except Outbox.Error Unit)) := do
  let _ ← session name
  messages.mapM fun message => inSession name fun r => r.store.add message

/-- Hand events to the dispatcher. -/
def dispatch (name : String) (events : List Sample.Event) : Step σ S Unit := do
  match ← inSession name fun r => r.dispatcher.dispatch events with
  | .ok () => return ()
  | .error error => throw (.outbox error)

/-- Commit a session. -/
def commit (name : String) : Step σ S Unit := do
  let taken ← takeSession name
  onWorld .outbox fun r => r.store.commit taken

/-- Drop a session. -/
def drop (name : String) : Step σ S Unit := do
  abandon (← takeSession name)

/-! ### The outbox -/

/-- Messages that are not done. -/
def getUnprocessed (limit : Int) : Step σ S (List Outbox.Pending) :=
  onWorld .outbox fun r => r.store.getUnprocessed limit

/-- Messages below a ceiling. -/
def getRetryable (limit ceiling : Int) : Step σ S (List Outbox.Pending) :=
  onWorld .outbox fun r => r.store.getRetryable limit ceiling

/-- Messages that ran out of retries. -/
def getExhausted (limit ceiling : Int) : Step σ S (List Outbox.Message) :=
  onWorld .outbox fun r => r.store.getExhausted limit ceiling

/-- Record a publish. -/
def markAsProcessed (id : Identifier) : Step σ S Unit :=
  onWorld .outbox fun r => r.store.markAsProcessed id

/-- Record a failed attempt. -/
def markAsFailed (id : Identifier) (error : String) (retryCount : Int) : Step σ S Unit :=
  onWorld .outbox fun r => r.store.markAsFailed id error retryCount

/-- Give a message its retries back. -/
def resetRetries (id : Identifier) : Step σ S Unit :=
  onWorld .outbox fun r => r.store.resetRetries id

/-! ### Delivery -/

/-- Publish an event. -/
def publish (eventType payload : String) : Step σ S Unit :=
  onWorld .bus fun r => r.bus.publish eventType payload

/-- One cycle, with settings of its own or those of the rehearsal. -/
def processBatch (config : Option Delivery.Config) : Step σ S Delivery.Report :=
  onWorld .outbox fun r => (r.processor (config.getD r.delivery)).processBatch

/-- Start a loop. One that is running already runs on, but can no longer be stopped. -/
def startLoop : Step σ S Unit :=
  modify fun r =>
    { r with loop := some (.start r.delivery r.now), strays := r.strays ++ r.loop.toList }

/-- Let time pass. All cycles are alike, so that of several loops only the number of their cycles
matters and one loop can go through its own before the next. -/
def advance (millis : Nat) : Step σ S Unit := do
  let r ← get
  let deadline := r.now + millis
  let run := Delivery.Loop.advance (r.processor r.delivery) none deadline (deadline + 1)
  let (strays, world) := (r.strays.mapM run).run r.world
  let (loop, world) := (r.loop.mapM run).run world
  set { r with world, loop, strays, now := deadline }

/-- Stop the loop that was started last. -/
def stopLoop : Step σ S Unit := do
  let r ← get
  match r.loop with
  | none => throw .notRunning
  | some _ => set { r with loop := none }

/-! ### Orders -/

/-- Place an order and give it a name. -/
def placeOrder (name : Option String) (customerId : String) (totalCents : Int) :
    Step σ S Order := do
  let order ← onWorld .order fun r => r.service.placeOrder customerId totalCents
  match name with
  | some name => modify fun r => { r with placed := Fields.insert name order.id r.placed }
  | none => pure ()
  return order

/-- Cancel an order. -/
def cancelOrder (id : Identifier) (reason : String) : Step σ S Order :=
  onWorld .order fun r => r.service.cancelOrder id reason

/-- The order of an identifier. -/
def getOrder (id : Identifier) : Step σ S Order :=
  onWorld .order fun r => r.service.getOrder id

/-! ### Entities -/

/-- The entity of an identifier. -/
def entity (id : String) : Step σ S Entity := do
  match (← get).entities.find? id with
  | some entity => return entity
  | none => throw .noEntity

/-- Create an entity. -/
def createEntity (created : Entity) : Step σ S Unit :=
  modify fun r => { r with entities := r.entities.create created }

/-- Change an entity and give it back. -/
def changeEntity (id : String) (change : Entity → Entity) : Step σ S Entity := do
  let changed := change (← entity id)
  modify fun r => { r with entities := r.entities.update changed }
  return changed

/-- How many handlers every kind of event has. -/
def handlerCounts : Step σ S (List Nat) := do
  return Sample.Kind.all.map (← get).dispatcher.handlerCount

end OutboxRelay.Rehearsal
