import OutboxRelay.Order.Service
import OutboxRelay.Outbox.Database

/-!
# Orders in a database

Orders in a database: one row per order in a table of their own, in the database of the outbox. A
new order is inserted whole. A changed one updates what can change; who created it, when, for whom
and at which total stays as it was inserted. A write that affects no row is an error.
-/

namespace OutboxRelay.Order

open Outbox (InSession)
open Sql (Catalogue Column Link Migration Query Server Transaction Value)

namespace Column

/-- The order's identifier, the key of the table. -/
def id : Column := ⟨"id", .id⟩

/-- The customer. -/
def customerId : Column := ⟨"customer_id", .text⟩

/-- The total. -/
def totalCents : Column := ⟨"total_cents", .integer⟩

/-- The name of the status. -/
def status : Column := ⟨"status", .text⟩

/-- Why the order was cancelled. -/
def cancelReason : Column := ⟨"cancel_reason", .text⟩

/-- Who created the order. -/
def createdBy : Column := ⟨"created_by", .text⟩

/-- When it was created. -/
def createdOn : Column := ⟨"created_on", .time⟩

/-- Who changed the order last. -/
def modifiedBy : Column := ⟨"modified_by", .text⟩

/-- When it was changed last. -/
def modifiedOn : Column := ⟨"modified_on", .time⟩

end Column

/-- The columns of an order. -/
def columns : List Column :=
  [Column.id, Column.customerId, Column.totalCents, Column.status, Column.cancelReason,
    Column.createdBy, Column.createdOn, Column.modifiedBy, Column.modifiedOn]

/-- A stored order read from a row. -/
def Record.ofRow : Sql.Row → Except Sql.Failure Record
  | [id, customerId, totalCents, status, cancelReason, createdBy, createdOn, modifiedBy,
      modifiedOn] =>
    return ⟨← Column.id.read Value.id? id, ← Column.customerId.read Value.text? customerId,
      ← Column.totalCents.read Value.integer? totalCents, ← Column.status.read Value.text? status,
      ← cancelReason.optional Value.text?, ← createdBy.optional Value.text?,
      ← createdOn.optional Value.time?, ← modifiedBy.optional Value.text?,
      ← modifiedOn.optional Value.time?⟩
  | _ => throw .unreadable

namespace Query

/-- Insert a new order. -/
def insert (record : Record) : Query where
  command := .insert table
    ((columns.zipIdx 1).map fun (column, number) => (column, .parameter number))
  parameters := [.id record.id, .text record.customerId, .integer record.totalCents,
    .text record.status, .ofOption .text record.cancelReason, .ofOption .text record.createdBy,
    .ofOption .time record.createdOn, .ofOption .text record.modifiedBy,
    .ofOption .time record.modifiedOn]

/-- Update what can change of an order. -/
def update (record : Record) : Query where
  command := .update table
    [(Column.status, .parameter 2), (Column.cancelReason, .parameter 3),
      (Column.modifiedBy, .parameter 4), (Column.modifiedOn, .parameter 5)]
    [.equals Column.id 1]
  parameters := [.id record.id, .text record.status, .ofOption .text record.cancelReason,
    .ofOption .text record.modifiedBy, .ofOption .time record.modifiedOn]

/-- Write an order. -/
def write (change : Change) (record : Record) : Query :=
  match change with
  | .added => insert record
  | .modified => update record

/-- Look for an order. -/
def find (id : Identifier) : Query where
  command := .select columns table [.equals Column.id 1] none none
  parameters := [.id id]

end Query

namespace Database

variable {τ : Type}

/-- The order under an identifier. -/
def find (server : Server τ) (id : Identifier) :
    Effect (World (Link τ)) Error (Option Order) := do
  let found ← World.onState
    ((server.selectFirst (Query.find id) Record.ofRow).mapError Error.database)
  match found with
  | none => return none
  | some record => return some (← checked record.toOrder)

/-- Write an order within a transaction. -/
def persist (server : Server τ) (change : Change) (order : Order) :
    InSession (Link τ) Transaction UInt64 := do
  let (_, transaction) ← get
  let affected ← World.outside (Outbox.Database.onLink
    (server.execute (.transaction transaction) (Query.write change order.toRecord)))
  if affected = 0 then throw (.store s!"order {order.id} does not exist")
  return affected

/-- Orders over a server. -/
def storage (server : Server τ) : Storage (Link τ) Transaction where
  store := Outbox.Database.store server
  find := find server
  persist := persist server

/-- The migrations of the table of orders. -/
def migrations : List Migration := [
  { version := 20260102000000
    description := "create orders"
    script :=
      "CREATE TABLE IF NOT EXISTS orders (\n" ++
      "    id           UUID PRIMARY KEY,\n" ++
      "    customer_id  TEXT NOT NULL,\n" ++
      "    total_cents  BIGINT NOT NULL CHECK (total_cents > 0),\n" ++
      "    status       TEXT NOT NULL,\n" ++
      "    cancel_reason TEXT,\n" ++
      "    created_by   TEXT,\n" ++
      "    created_on   TIMESTAMPTZ,\n" ++
      "    modified_by  TEXT,\n" ++
      "    modified_on  TIMESTAMPTZ\n" ++
      ");\n\n" ++
      "CREATE INDEX IF NOT EXISTS idx_orders_customer_id ON orders (customer_id);\n" }]

/-- Bring the tables of messages and orders up to date, in that order. -/
def migrate (catalogue : Catalogue τ) : Effect (World (Link τ)) Outbox.Error Unit := do
  Outbox.Database.migrate catalogue
  World.onState ((catalogue.run migrations).mapError .migration)

end Database

end OutboxRelay.Order
