import OutboxRelay.Order.Database
import OutboxRelay.Rehearsal.Steps
import OutboxRelay.Sql.Script

/-!
# Rehearsals over a database

Rehearsals over a database that plays a script. Every step brings the replies to its own queries;
what it does not use up is forgotten. After every step the statements that it sent are seen, with
their parameters as a column keeps them.
-/

namespace OutboxRelay.Rehearsal

open Sql (Applied Link Script ScriptedReply Statement Transaction)

/-- A database and a bus. -/
structure DatabaseSite where
  link : Link Script
  bus : Broker.MemoryBus

namespace DatabaseSite

/-- Change the end of the database. -/
def setLink (link : Link Script) (site : DatabaseSite) : DatabaseSite := { site with link }

/-- Change the bus. -/
def setBus (bus : Broker.MemoryBus) (site : DatabaseSite) : DatabaseSite := { site with bus }

/-- The script that is played. -/
def script (site : DatabaseSite) : Script := site.link.server

/-- The orders of a site. -/
def orders : Order.Storage DatabaseSite Transaction :=
  (Order.Database.storage Script.server).onPart (·.link) setLink

/-- The bus of a site. -/
def publisher : Broker.Bus (World DatabaseSite) where
  publish eventType payload :=
    World.onState (Effect.onPart (·.bus) setBus (Broker.MemoryBus.bus.publish eventType payload))

/-- Begin a step: its replies are the only ones, and nothing is sent yet. -/
def ready (replies : List ScriptedReply) (refusals : List (String × String))
    (site : DatabaseSite) : DatabaseSite :=
  site.setLink { site.link with
    server := { site.script with sent := [], replies, refusals } }

end DatabaseSite

/-- A step of a rehearsal over a database. -/
abbrev DatabaseStep (α : Type) : Type := Step DatabaseSite Transaction α

/-- The rehearsal that begins on a site. -/
def onDatabase (world : World DatabaseSite) : Rehearsal DatabaseSite Transaction :=
  { orders := DatabaseSite.orders, bus := DatabaseSite.publisher, world }

/-- What is seen of a database after a step. -/
structure Transcript where
  sent : List Statement
  migrated : List Applied
  /-- How many replies were not used up. -/
  repliesLeft : Nat

/-- Take a step, with replies of its own, and see what it sent. -/
def performWith {α : Type} (replies : List ScriptedReply) (refusals : List (String × String))
    (step : DatabaseStep α) (rehearsal : Rehearsal DatabaseSite Transaction) :
    Except Fault α × Transcript × Rehearsal DatabaseSite Transaction :=
  let readied := { rehearsal with
    world := rehearsal.world.withState (rehearsal.world.state.ready replies refusals) }
  let (result, after) := Effect.perform step readied
  let script := after.world.state.script
  (result, ⟨script.sent.map Statement.stored, script.history, script.replies.length⟩, after)

/-- Refuse events of a type from now on. -/
def refuseOnBus (eventType : String) : DatabaseStep Unit :=
  changeState fun site => site.setBus (site.bus.refuse eventType)

/-- How many messages the bus accepted so far. -/
def acceptedByBus : DatabaseStep Nat :=
  view (·.bus.published.length)

/-- Bring the table of messages up to date. -/
def migrateOutbox : DatabaseStep Unit :=
  onWorld .outbox fun _ => World.onPart (·.link) DatabaseSite.setLink
    (Outbox.Database.migrate Script.catalogue)

/-- Bring all tables up to date. -/
def migrateAll : DatabaseStep Unit :=
  onWorld .outbox fun _ => World.onPart (·.link) DatabaseSite.setLink
    (Order.Database.migrate Script.catalogue)

end OutboxRelay.Rehearsal
