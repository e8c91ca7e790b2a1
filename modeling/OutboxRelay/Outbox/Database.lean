import OutboxRelay.Outbox.Store
import OutboxRelay.Sql.Migration

/-!
# The outbox in a database

The store in a database. Messages are rows of one table. A message is added within the transaction
of its session; everything else is a single query on the pool, so that no other transaction can come
between reading a row and changing it. A mark that affects no row means that there is no such row,
save that a message may be marked as processed twice, so that this one mark looks for the row first.
-/

namespace OutboxRelay.Outbox

open Sql (Catalogue Column Link Migration Query Route Server Transaction Value)

/-- The table of messages. -/
def table : String := "outbox_messages"

namespace Column

/-- The message's identifier, the key of the table. -/
def id : Column := ⟨"id", .id⟩

/-- The schema of the content. -/
def eventType : Column := ⟨"type", .text⟩

/-- The event itself. -/
def content : Column := ⟨"content", .text⟩

/-- When the business fact happened. -/
def occurredOn : Column := ⟨"occurred_on", .time⟩

/-- When the message was published, null before. -/
def processedOn : Column := ⟨"processed_on", .time⟩

/-- The last failure. -/
def error : Column := ⟨"error", .text⟩

/-- How many attempts failed. -/
def retryCount : Column := ⟨"retry_count", .integer⟩

end Column

/-- The columns of what a publish attempt needs. -/
def pendingColumns : List Column :=
  [Column.id, Column.eventType, Column.content, Column.retryCount]

/-- The columns of a message. -/
def messageColumns : List Column :=
  [Column.id, Column.eventType, Column.content, Column.occurredOn, Column.processedOn,
    Column.error, Column.retryCount]

/-- What a publish attempt needs, read from a row. -/
def Pending.ofRow : Sql.Row → Except Sql.Failure Pending
  | [id, eventType, content, retryCount] =>
    return ⟨← Column.id.read Value.id? id, ← Column.eventType.read Value.text? eventType,
      ← Column.content.read Value.text? content,
      ← Column.retryCount.read Value.integer? retryCount⟩
  | _ => throw .unreadable

/-- A message read from a row. -/
def Message.ofRow : Sql.Row → Except Sql.Failure Message
  | [id, eventType, content, occurredOn, processedOn, error, retryCount] =>
    return ⟨← Column.id.read Value.id? id, ← Column.eventType.read Value.text? eventType,
      ← Column.content.read Value.text? content, ← Column.occurredOn.read Value.time? occurredOn,
      ← processedOn.optional Value.time?, ← error.optional Value.text?,
      ← Column.retryCount.read Value.integer? retryCount⟩
  | _ => throw .unreadable

/-- An identifier read from a row that holds nothing else, where it goes without a name. -/
def idOfRow : Sql.Row → Except Sql.Failure Identifier
  | [id] => id.required Value.id? (.place 0)
  | _ => throw .unreadable

namespace Query

/-- The limit of a selection; a negative one selects nothing. -/
def limitValue (limit : Int) : Value := .integer (max limit 0)

/-- Add a message with no attempt behind it. -/
def add (message : Message) : Query where
  command := .insert table [
    (Column.id, .parameter 1), (Column.eventType, .parameter 2), (Column.content, .parameter 3),
    (Column.occurredOn, .parameter 4), (Column.processedOn, .null), (Column.error, .null),
    (Column.retryCount, .integer 0)]
  parameters := [.id message.id, .text message.eventType, .text message.content,
    .time message.occurredOn]

/-- Select messages that are not done. -/
def unprocessed (limit : Int) : Query where
  command := .select pendingColumns table [.isNull Column.processedOn] (some Column.occurredOn)
    (some 1)
  parameters := [limitValue limit]

/-- Select messages below the ceiling. -/
def retryable (limit ceiling : Int) : Query where
  command := .select pendingColumns table
    [.isNull Column.processedOn, .below Column.retryCount 2] (some Column.occurredOn) (some 1)
  parameters := [limitValue limit, .integer ceiling]

/-- Select messages that ran out of retries. -/
def exhausted (limit ceiling : Int) : Query where
  command := .select messageColumns table
    [.isNull Column.processedOn, .atLeast Column.retryCount 2] (some Column.occurredOn) (some 1)
  parameters := [limitValue limit, .integer ceiling]

/-- Record the first publish. -/
def markAsProcessed (id : Identifier) : Query where
  command := .update table [(Column.processedOn, .now)]
    [.equals Column.id 1, .isNull Column.processedOn]
  parameters := [.id id]

/-- Look for a message. -/
def find (id : Identifier) : Query where
  command := .select [Column.id] table [.equals Column.id 1] none none
  parameters := [.id id]

/-- Record a failed attempt. -/
def markAsFailed (id : Identifier) (error : String) (retryCount : Int) : Query where
  command := .update table
    [(Column.error, .parameter 2), (Column.retryCount, .greatest Column.retryCount 3)]
    [.equals Column.id 1]
  parameters := [.id id, .text error, .integer retryCount]

/-- Give a message that is not done its retries back. -/
def resetRetries (id : Identifier) : Query where
  command := .update table [(Column.retryCount, .integer 0), (Column.error, .null)]
    [.equals Column.id 1, .isNull Column.processedOn]
  parameters := [.id id]

end Query

namespace Database

variable {τ α : Type}

/-- Work on the database and report its failures as the outbox does. -/
def onLink (effect : Effect (Link τ) Sql.Failure α) : Effect (World (Link τ)) Error α :=
  World.onState (effect.mapError .storage)

/-- A query that has to affect a row of the message. -/
def changing (server : Server τ) (id : Identifier) (query : Query) :
    Effect (World (Link τ)) Error Unit := do
  if (← onLink (server.execute .pool query)) = 0 then throw (.notFound id)

/-- The store over a server. -/
def store (server : Server τ) : Store (Link τ) Transaction where
  begin := onLink server.openTransaction
  commit transaction := onLink (server.commitTransaction transaction)
  abandon transaction := onLink (server.rollBack transaction)
  add message := do
    let (_, transaction) ← get
    let _ ← World.outside (onLink (server.execute (.transaction transaction) (Query.add message)))
  getUnprocessed limit := onLink (server.select (Query.unprocessed limit) Pending.ofRow)
  getRetryable limit ceiling :=
    onLink (server.select (Query.retryable limit ceiling) Pending.ofRow)
  getExhausted limit ceiling :=
    onLink (server.select (Query.exhausted limit ceiling) Message.ofRow)
  markAsProcessed id := do
    if (← onLink (server.execute .pool (Query.markAsProcessed id))) = 0 then
      match ← onLink (server.selectFirst (Query.find id) idOfRow) with
      | some _ => return ()
      | none => throw (.notFound id)
  markAsFailed id error retryCount := changing server id (Query.markAsFailed id error retryCount)
  resetRetries id := changing server id (Query.resetRetries id)

/-- The migrations of the table of messages. -/
def migrations : List Migration := [
  { version := 20260101000000
    description := "create outbox messages"
    script :=
      "-- Durable integration events awaiting publication\n" ++
      "CREATE TABLE IF NOT EXISTS outbox_messages (\n" ++
      "    id            UUID PRIMARY KEY,\n" ++
      "    type          TEXT NOT NULL,\n" ++
      "    content       TEXT NOT NULL,\n" ++
      "    occurred_on   TIMESTAMPTZ NOT NULL,\n" ++
      "    processed_on  TIMESTAMPTZ NULL,\n" ++
      "    error         TEXT NULL,\n" ++
      "    retry_count   INTEGER NOT NULL DEFAULT 0\n" ++
      ");\n\n" ++
      "CREATE INDEX IF NOT EXISTS idx_outbox_messages_processed_on\n" ++
      "    ON outbox_messages (processed_on);\n\n" ++
      "CREATE INDEX IF NOT EXISTS idx_outbox_messages_occurred_on\n" ++
      "    ON outbox_messages (occurred_on);\n" }]

/-- Bring the table of messages up to date. -/
def migrate (catalogue : Catalogue τ) : Effect (World (Link τ)) Error Unit :=
  World.onState ((catalogue.run migrations).mapError .migration)

end Database

end OutboxRelay.Outbox
