import OutboxRelay.Rehearsal.Sample
import OutboxRelay.Rehearsal.Site
import OutboxRelay.UnitOfWork

/-!
# Entities of a rehearsal

Entities of a rehearsal. An entity raises sample events, says how many rows it takes to write, and
may refuse to be written. One that is not a root keeps its events through every commit, because a
unit of work takes events off roots only.
-/

namespace OutboxRelay.Rehearsal

open Outbox (InSession Session)

/-- An entity. -/
structure Entity where
  id : String
  /-- How many rows a write reports. -/
  rows : Nat := 1
  /-- Whether a write fails. -/
  rejects : Bool := false
  /-- Whether the entity is an aggregate root. -/
  isRoot : Bool := true
  audit : Audit := {}
  /-- The events raised and not yet taken off. -/
  events : List Sample.Event := []

namespace Entity

/-- The table that entities are written to. -/
def table : String := "entities"

/-- The row that an entity is written as. -/
def row (change : Change) (entity : Entity) : Json :=
  .ofFields [
    ("added", .bool (change = .added)),
    ("audit", entity.audit.toJson),
    ("events", .integer entity.events.length)]

/-- Write an entity through a session. -/
def persist (change : Change) (entity : Entity) : InSession Site Session UInt64 :=
  if entity.rejects then throw (.store s!"write of {entity.id} rejected")
  else .ofState fun (world, session) =>
    (.ofNat entity.rows, world, session.putRow table entity.id (entity.row change))

/-- How a unit of work handles entities. -/
def model : EntityModel Entity Sample.Kind Site Session where
  audit := (·.audit)
  withAudit audit entity := { entity with audit }
  pending? entity := if entity.isRoot then some entity.events else none
  clearPending entity := { entity with events := [] }
  persist := persist

end Entity

/-- Entities in the order of their creation, each identifier once. -/
abbrev Entities : Type := List Entity

namespace Entities

/-- The entity of an identifier. -/
def find? (id : String) (entities : Entities) : Option Entity :=
  List.find? (·.id == id) entities

/-- Create an entity, which is then the last one; an earlier one of the identifier is dropped. -/
def create (entity : Entity) (entities : Entities) : Entities :=
  entities.filter (·.id != entity.id) ++ [entity]

/-- Put a changed entity in the place of the one with its identifier. -/
def update (changed : Entity) (entities : Entities) : Entities :=
  entities.map fun entity => if entity.id = changed.id then changed else entity

end Entities

end OutboxRelay.Rehearsal
