import OutboxRelay.Order.Service
import OutboxRelay.Outbox.Memory

/-!
# Orders in memory

Orders in the store in memory: one JSON row per order, under the text of its identifier. Whatever
stands there and is no order is reported as corrupt, under the identifier that was asked for if the
row cannot be decoded, and under the row's own if only its status is unknown.
-/

namespace OutboxRelay.Order

open Outbox (InSession Memory Session)

/-- The order of a JSON row that was found under an identifier. The identifier serves the report of
a row that cannot be decoded; it is not compared with the one in the row. -/
def ofRow (id : Identifier) (row : Json) : Except Error Order :=
  match Record.ofJson row with
  | .error fault => .error (.corruptRecord id.toText fault.message)
  | .ok record => record.toOrder

/-- The committed order under an identifier. What open sessions staged is not seen. -/
def findIn (memory : Memory) (id : Identifier) : Except Error (Option Order) :=
  match memory.rows table id.toText with
  | none => .ok none
  | some row => (ofRow id row).map some

/-- Stage the row of an order. -/
def stageIn (order : Order) (session : Session) : Session :=
  session.putRow table order.id.toText order.toRecord.toJson

/-- Write an order through a session in memory; that is always one row, whether the order was there
before or not. -/
def persistInMemory {σ : Type} (_ : Change) (order : Order) : InSession σ Session UInt64 :=
  .ofState fun (world, session) => (1, world, order.stageIn session)

/-- Orders in a store in memory. -/
def memoryStorage : Storage Memory Session where
  store := Memory.store
  find id := World.onState (.ofPair fun memory => (findIn memory id, memory))
  persist := persistInMemory

end OutboxRelay.Order
