import OutboxRelay.Rehearsal.Reaction
import OutboxRelay.Rehearsal.Steps

/-!
# Rehearsals in memory

Rehearsals in memory. Here rows and messages can be looked at, the store can be told to fail, and
orders and messages can be referred to by name and by place. After every step the site is observed.
-/

namespace OutboxRelay.Rehearsal

open Outbox (Session)

/-- A step of a rehearsal in memory. -/
abbrev SiteStep (α : Type) : Type := Step Site Session α

/-- The rehearsal that begins on a site. -/
def onSite (world : World Site) : Rehearsal Site Session :=
  { orders := Site.orders, bus := Site.publisher, world }

/-! ### References -/

/-- What refers to an order or a message. -/
inductive Reference where
  /-- By its identifier. -/
  | id (id : Identifier)
  /-- By its place in the outbox. -/
  | row (index : Nat)
  /-- By the name that the order was given. -/
  | name (name : String)

/-- The identifier that a reference stands for; one that refers to nothing stands for the nil
identifier. -/
def resolve : Reference → SiteStep Identifier
  | .id id => return id
  | .row index => view fun site => ((site.memory.outbox[index]?).map (·.id)).getD default
  | .name name => return ((← get).placed.lookup name).getD default

/-! ### What is observed -/

/-- How a site looks after a step. -/
structure Observation where
  /-- Messages that the step added to the outbox. -/
  added : List Outbox.Message
  outbox : List Outbox.Message
  commits : Nat
  attempts : Nat
  published : Nat
  /-- The lines that the step logged. -/
  log : List String

/-- What is observed after a step that began on an earlier site. -/
def observe (before after : Site) : Observation where
  added := after.memory.outbox.drop before.memory.outbox.length
  outbox := after.memory.outbox
  commits := after.memory.commits
  attempts := after.bus.attempts
  published := after.bus.published.length
  log := after.log.drop before.log.length

/-- Take a step and observe the site. -/
def perform {α : Type} (step : SiteStep α) (rehearsal : Rehearsal Site Session) :
    Except Fault α × Observation × Rehearsal Site Session :=
  let (result, after) := Effect.perform step rehearsal
  (result, observe rehearsal.world.state after.world.state, after)

/-! ### The store -/

/-- Stage a row. -/
def putRow (name table key : String) (value : Json) : SiteStep Unit := do
  keepSession name ((← session name).putRow table key value)

/-- The staged messages. -/
def staged (name : String) : SiteStep (List Outbox.Message) := do
  return (← session name).outbox

/-- A committed row. -/
def row (table key : String) : SiteStep (Option Json) :=
  view fun site => site.memory.rows table key

/-- The row of an order. -/
def orderRow (id : Identifier) : SiteStep (Option Json) :=
  row Order.table id.toText

/-- A committed message. -/
def message (id : Identifier) : SiteStep (Option Outbox.Message) :=
  view fun site => site.memory.message? id

/-- Let the next commit fail. -/
def failNextCommit : SiteStep Unit :=
  changeState fun site => site.setMemory { site.memory with failNextCommit := true }

/-- Let the next poll fail. -/
def failNextFetch : SiteStep Unit :=
  changeState fun site => site.setMemory { site.memory with failNextFetch := true }

/-- Let the next calls of an operation fail. -/
def planFault (operation : Operation) (times : Nat) : SiteStep Unit :=
  changeState fun site => site.setFaults (site.faults.plan operation times)

/-! ### The bus -/

/-- Messages that the bus accepted. -/
def published : SiteStep (List Broker.Message) :=
  view (·.bus.published)

/-- Change the bus. -/
def changeBus (change : Broker.MemoryBus → Broker.MemoryBus) : SiteStep Unit :=
  changeState fun site => site.setBus (change site.bus)

/-! ### Units of work -/

/-- What a unit of work did. -/
structure WorkDone where
  /-- How many entities were tracked. -/
  tracked : Nat
  /-- The rows written. -/
  written : Except Outbox.Error Nat
  /-- All entities afterwards. -/
  entities : Entities

/-- Commit entities as a unit of work, on behalf of another user if one is named. -/
def commitWork (changes : List (Change × String)) (user : Option String) : SiteStep WorkDone := do
  let tracked : List (Tracked Entity) ←
    changes.mapM fun (change, id) => return ⟨change, ← entity id⟩
  let r ← get
  let work : UnitOfWork Entity Sample.Kind Site Session :=
    { store := r.store, model := Entity.model, dispatcher := r.dispatcher, user := r.user }
  let work := match user with
    | some user => work.forUser user
    | none => work
  let ((written, settled), world) := (work.commit tracked).run r.world
  let entities := settled.foldl (fun entities (done : Tracked Entity) =>
    Entities.update done.entity entities) r.entities
  set { r with world, entities }
  return { tracked := tracked.length, written := written.map (·.toNat), entities }

end OutboxRelay.Rehearsal
