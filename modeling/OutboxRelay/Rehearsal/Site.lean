import OutboxRelay.Broker.Bus
import OutboxRelay.Delivery.Batch
import OutboxRelay.Order.Memory
import OutboxRelay.Rehearsal.Fault

/-!
# Sites in memory

A site: one store and one bus in memory, with the faults of the store and what handlers logged.
Everything that works on a site goes through the same faults.
-/

namespace OutboxRelay.Rehearsal

open Broker (Bus MemoryBus)
open Outbox (Memory Session Store)

/-- The state that all parts of an application share. -/
structure Site where
  memory : Memory := {}
  bus : MemoryBus
  faults : Faults := Faults.none
  /-- What handlers logged, the first line first. -/
  log : List String := []

namespace Site

/-- Change the store in memory. -/
def setMemory (memory : Memory) (site : Site) : Site := { site with memory }

/-- Change the bus. -/
def setBus (bus : MemoryBus) (site : Site) : Site := { site with bus }

/-- Change the faults. -/
def setFaults (faults : Faults) (site : Site) : Site := { site with faults }

/-- Put a line behind the log. -/
def note (line : String) (site : Site) : Site := { site with log := site.log ++ [line] }

/-- The store of a site. -/
def store : Store Site Session :=
  guarded (·.faults) setFaults (Memory.store.onPart (·.memory) setMemory)

/-- The bus of a site. -/
def publisher : Bus (World Site) where
  publish eventType payload :=
    World.onState (Effect.onPart (·.bus) setBus (MemoryBus.bus.publish eventType payload))

/-- The orders of a site. -/
def orders : Order.Storage Site Session where
  store
  find id := World.onPart (·.memory) setMemory (Order.memoryStorage.find id)
  persist := Order.persistInMemory

/-- Delivery from the store of a site to its bus. -/
def processor (config : Delivery.Config) : Delivery.Processor Site Session :=
  { store, bus := publisher, config }

end Site

end OutboxRelay.Rehearsal
