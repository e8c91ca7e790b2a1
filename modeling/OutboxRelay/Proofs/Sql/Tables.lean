import OutboxRelay.Proofs.Effect
import OutboxRelay.Sql.Server

/-!
# A server with tables

A database server that runs each statement as its text says. A table is a list of records, keyed by
the column `id`. Statements on the pool take effect at once. A transaction sees what is committed
and what it wrote itself; what it wrote is applied when it commits, and nobody else sees it before.
A comparison with a null does not hold, `GREATEST` ignores one, and ordered rows have theirs last.
In which order a selection comes across the records of a table is up to the server, as long as it
comes across each of them once; only `ORDER BY` says more. The clock is read once by every statement
that says `NOW()`.

Constraints other than keys are not checked, and a statement that is refused leaves a transaction as
it was.
-/

namespace OutboxRelay.Sql

/-- A record of a table: what each of its columns holds. -/
abbrev Record : Type := Column → Value

/-- The record that holds some values and nulls otherwise. -/
def Record.ofList (values : List (Column × Value)) : Record :=
  fun column => (values.lookup column).getD .null

/-- The column that keys every table. -/
def keyColumn : Column := ⟨"id", .id⟩

namespace Value

/-- The greater one of two values; a null is never it. -/
def greatest : Value → Value → Value
  | integer first, integer second => integer (max first second)
  | null, second => second
  | first, _ => first

/-- Whether a value is less than another. Values of different kinds are not, and neither is a
null. -/
def below : Value → Value → Bool
  | integer first, integer second => first < second
  | time first, time second => !Instant.notAfter second first
  | _, _ => false

/-- Whether a value is another or greater. A comparison with a null does not hold this way
either. -/
def atLeast : Value → Value → Bool
  | integer first, integer second => second ≤ first
  | time first, time second => Instant.notAfter second first
  | _, _ => false

/-- Whether a value may come before another in ascending order; nulls come last. -/
def mayPrecede : Value → Value → Bool
  | _, null => true
  | null, _ => false
  | first, second => !second.below first

end Value

/-- The value of a numbered parameter. -/
def Query.parameter (query : Query) (number : Nat) : Value :=
  query.parameters[number - 1]?.getD .null

/-- The value that an expression sets a column of a record to. -/
def Expression.value (query : Query) (moment : Instant) (record : Record) : Expression → Value
  | parameter number => query.parameter number
  | null => .null
  | integer value => .integer value
  | now => .time moment
  | greatest column number => (record column).greatest (query.parameter number)

/-- Whether a condition holds of a record. Two nulls are not equal. -/
def Condition.holds (query : Query) (record : Record) : Condition → Bool
  | isNull column => record column = .null
  | equals column number => record column ≠ .null ∧ record column = query.parameter number
  | below column number => (record column).below (query.parameter number)
  | atLeast column number => (record column).atLeast (query.parameter number)

/-- A record with assignments carried out; all of them see the record as it was. -/
def Record.assign (query : Query) (moment : Instant) (assignments : List (Column × Expression))
    (record : Record) : Record :=
  fun column =>
    match assignments.lookup column with
    | some expression => expression.value query moment record
    | none => record column

/-- Whether a command asks for the time, which it does once however often it says so. -/
def Command.readsClock : Command → Bool
  | insert _ values => values.any (·.2 = .now)
  | select .. => false
  | update _ assignments _ => assignments.any (·.2 = .now)

/-- An order in which a server comes across the records of a table, which may differ from statement
to statement. Nothing is known of it but that no record is missed or met twice. -/
structure Scan where
  order : Nat → List Record → List Record
  perm : ∀ statement records, (order statement records).Perm records

/-- What a statement writes. An update is kept as a condition and a change, so that it can be
carried out on what is committed later. -/
inductive Write where
  | insert (table : String) (record : Record)
  | update (table : String) (concerns : Record → Bool) (change : Record → Record)

/-- Write to tables. -/
def Write.apply (write : Write) (records : String → List Record) : String → List Record :=
  match write with
  | insert table record => fun other =>
    if other = table then records table ++ [record] else records other
  | update table concerns change => fun other =>
    if other = table then
      (records table).map fun record => if concerns record then change record else record
    else records other

/-- Write to tables one after the other, each write seeing what those before it left. -/
def Write.applyAll (writes : List Write) (records : String → List Record) :
    String → List Record :=
  writes.foldl (fun records write => write.apply records) records

theorem Write.apply_insert (records : String → List Record) (table : String) (record : Record) :
    (Write.insert table record).apply records table = records table ++ [record] :=
  if_pos rfl

theorem Write.apply_update (records : String → List Record) (table : String)
    (concerns : Record → Bool) (change : Record → Record) :
    (Write.update table concerns change).apply records table =
      (records table).map fun record => if concerns record then change record else record :=
  if_pos rfl

/-- The state of a server with tables, together with the clock that it will read. -/
structure Tables where
  /-- What is committed. -/
  records : String → List Record := fun _ => []
  /-- What the open transactions wrote. -/
  written : Transaction → Option (List Write) := fun _ => none
  /-- The readings of the clock, in the order in which it will be read. -/
  clock : Nat → Instant
  readings : Nat := 0
  /-- Statements run so far. -/
  statements : Nat := 0

namespace Tables

/-- The records that are seen from a route: what is committed, and for a transaction what it wrote
itself. -/
def seen (route : Route) (tables : Tables) : String → List Record :=
  match route with
  | .pool => tables.records
  | .transaction transaction =>
    Write.applyAll ((tables.written transaction).getD []) tables.records

/-- The server with one transaction in another state. -/
def setWritten (transaction : Transaction) (writes : Option (List Write)) (tables : Tables) :
    Tables :=
  { tables with
    written := fun other => if other = transaction then writes else tables.written other }

@[simp] theorem written_setWritten (transaction other : Transaction)
    (writes : Option (List Write)) (tables : Tables) :
    (tables.setWritten transaction writes).written other =
      if other = transaction then writes else tables.written other := rfl

/-- Write from a route. -/
def write (route : Route) (written : Write) (tables : Tables) : Tables :=
  match route with
  | .pool => { tables with records := written.apply tables.records }
  | .transaction transaction =>
    tables.setWritten transaction
      ((tables.written transaction).map (· ++ [written]))

/-- Count a statement and, if it asks for the time, the reading of the clock. -/
def count (command : Command) (tables : Tables) : Tables :=
  { tables with
    statements := tables.statements + 1
    readings := tables.readings + if command.readsClock then 1 else 0 }

/-- The rows of a selection that are within its limit. -/
def limited (query : Query) (limit : Option Nat) (rows : List Row) : Except Failure Reply :=
  match limit.map query.parameter with
  | none | some .null => .ok (.rows rows)
  | some (.integer count) =>
    if count < 0 then .error (.refused "LIMIT must not be negative")
    else .ok (.rows (rows.take count.toNat))
  | some _ => .error (.refused "argument of LIMIT must be type bigint")

/-- The records that a selection finds, in its order. -/
def found (scan : Scan) (query : Query) (conditions : List Condition) (ascending : Option Column)
    (statement : Nat) (records : List Record) : List Record :=
  let eligible := (scan.order statement records).filter fun record =>
    conditions.all (·.holds query record)
  match ascending with
  | none => eligible
  | some column => eligible.mergeSort fun first second => (first column).mayPrecede (second column)

/-- Run a query. A query on the pool takes effect at once, one within a transaction is kept until
the commit. -/
def run (scan : Scan) (route : Route) (query : Query) (tables : Tables) :
    Except Failure Reply × Tables :=
  let moment := tables.clock tables.readings
  let counted := tables.count query.command
  match query.command with
  | .insert table values =>
    let record := Record.ofList (values.map fun (column, expression) =>
      (column, expression.value query moment fun _ => .null))
    if (tables.seen route table).any (· keyColumn = record keyColumn) then
      (.error (.refused "duplicate key value violates unique constraint"), counted)
    else (.ok (.affected 1), counted.write route (.insert table record))
  | .select columns table conditions ascending limit =>
    let records := found scan query conditions ascending tables.statements (tables.seen route table)
    (limited query limit (records.map fun record => columns.map record), counted)
  | .update table assignments conditions =>
    let concerns (record : Record) : Bool := conditions.all (·.holds query record)
    (.ok (.affected (.ofNat ((tables.seen route table).countP concerns))),
      counted.write route (.update table concerns (Record.assign query moment assignments)))

/-- Whether statements can be sent on a route: always on the pool, and within a transaction until it
ends. -/
def isOpen (route : Route) (tables : Tables) : Bool :=
  match route with
  | .pool => true
  | .transaction transaction => (tables.written transaction).isSome

/-- Whether what a transaction wrote gives a key to two records. -/
def clashes (tables : Tables) (writes : List Write) : Bool :=
  writes.any fun
    | .insert table record =>
      (tables.records table).any (· keyColumn = record keyColumn)
    | .update .. => false

/-- Commit a transaction. A key that was taken since the transaction inserted it makes the commit
fail, and the transaction is over in either case. -/
def commit (transaction : Transaction) (tables : Tables) : Except Failure Reply × Tables :=
  match tables.written transaction with
  | none => (.error .connectionClosed, tables)
  | some writes =>
    let closed := tables.setWritten transaction none
    if tables.clashes writes then
      (.error (.refused "duplicate key value violates unique constraint"), closed)
    else (.ok (.affected 0), { closed with records := Write.applyAll writes tables.records })

/-- Take a statement from a route. A route whose transaction is not open takes no query. -/
def receive (scan : Scan) (route : Route) (statement : Statement) (tables : Tables) :
    Except Failure Reply × Tables :=
  match statement, route with
  | .query query, route =>
    if tables.isOpen route then tables.run scan route query
    else (.error .connectionClosed, tables)
  | .begin, .transaction transaction => (.ok (.affected 0), tables.setWritten transaction (some []))
  | .commit, .transaction transaction => tables.commit transaction
  | .rollback, .transaction transaction => (.ok (.affected 0), tables.setWritten transaction none)
  | _, _ => (.error (.refused "statement not supported"), tables)

/-- The server itself. The scan is the one thing about it that is left open. -/
def server (scan : Scan) : Server Tables where
  send route statement := Effect.ofPair (receive scan route statement)

/-! ### Queries on the pool -/

section

variable {α : Type} {scan : Scan} {link : Link Tables}

/-- A free connection is waited for no longer. -/
theorem perform_acquire (free : link.hasFree = true) :
    (Server.acquire : Effect (Link Tables) Failure Unit).perform link = (.ok (), link) := by
  have seen : (get : Effect (Link Tables) Failure _).perform link = (.ok link, link) := rfl
  rw [Server.acquire, Effect.perform_bind_ok seen, if_pos free]
  rfl

/-- A query on the pool is run as soon as a connection is free. -/
theorem perform_ask (free : link.hasFree = true) (query : Query) :
    ((server scan).ask .pool query).perform link =
      ((link.server.run scan .pool query).1,
        { link with server := (link.server.run scan .pool query).2 }) := by
  rw [Server.ask, if_pos rfl, Effect.perform_bind_ok (perform_acquire free)]
  rfl

theorem perform_execute (free : link.hasFree = true) (query : Query) :
    ((server scan).execute .pool query).perform link =
      ((link.server.run scan .pool query).1.map (·.count),
        { link with server := (link.server.run scan .pool query).2 }) := by
  rw [Server.execute, Effect.perform_bind_pure, perform_ask free]

theorem perform_select (free : link.hasFree = true) {query : Query} {rows : List Row}
    (answered : (link.server.run scan .pool query).1 = .ok (.rows rows))
    (read : Row → Except Failure α) :
    ((server scan).select query read).perform link =
      (rows.mapM read, { link with server := (link.server.run scan .pool query).2 }) := by
  have asked : ((server scan).ask .pool query).perform link = (.ok (.rows rows), _) :=
    (perform_ask free query).trans (Prod.ext answered rfl)
  rw [Server.select, Effect.perform_bind_ok asked, Reply.selected]
  cases rows.mapM read <;> rfl

theorem perform_selectFirst (free : link.hasFree = true) {query : Query} {rows : List Row}
    (answered : (link.server.run scan .pool query).1 = .ok (.rows rows))
    (read : Row → Except Failure α) :
    ((server scan).selectFirst query read).perform link =
      ((match rows with
        | [] => .ok none
        | row :: _ => (read row).map some),
        { link with server := (link.server.run scan .pool query).2 }) := by
  have asked : ((server scan).ask .pool query).perform link = (.ok (.rows rows), _) :=
    (perform_ask free query).trans (Prod.ext answered rfl)
  rw [Server.selectFirst, Effect.perform_bind_ok asked, Reply.selected]
  cases rows with
  | nil => rfl
  | cons row rows =>
    dsimp only
    cases read row <;> rfl

/-! ### Transactions -/

variable {transaction : Transaction} {writes : List Write}

theorem perform_openTransaction (free : link.hasFree = true) :
    (server scan).openTransaction.perform link =
      (.ok ⟨link.opened⟩,
        { link with
          opened := link.opened + 1
          ongoing := link.ongoing ++ [⟨link.opened⟩]
          server := link.server.setWritten ⟨link.opened⟩ (some []) }) := by
  rw [Server.openTransaction, Effect.perform_bind_ok (perform_acquire free)]
  rfl

/-- A query within an open transaction is run whether a connection is free or not. -/
theorem perform_execute_within (ongoing : link.server.written transaction = some writes)
    (query : Query) :
    ((server scan).execute (.transaction transaction) query).perform link =
      ((link.server.run scan (.transaction transaction) query).1.map (·.count),
        { link with server := (link.server.run scan (.transaction transaction) query).2 }) := by
  have received : receive scan (.transaction transaction) (.query query) link.server =
      link.server.run scan (.transaction transaction) query := by
    simp [receive, isOpen, ongoing]
  have sent : ((server scan).ask (.transaction transaction) query).perform link = _ :=
    congrArg (fun given => (given.1, ({ link with server := given.2 } : Link Tables))) received
  rw [Server.execute, Effect.perform_bind_pure, sent]

theorem perform_commitTransaction (ongoing : link.server.written transaction = some writes)
    (free : link.server.clashes writes = false) :
    ((server scan).commitTransaction transaction).perform link =
      (.ok (),
        { link with
          ongoing := link.ongoing.erase transaction
          server := { link.server.setWritten transaction none with
            records := Write.applyAll writes link.server.records } }) := by
  have committed : receive scan (.transaction transaction) .commit link.server =
      (.ok (.affected 0), { link.server.setWritten transaction none with
        records := Write.applyAll writes link.server.records }) := by
    simp [receive, commit, ongoing, free]
  have sent : (Effect.ofState ((server scan).sendOn (.transaction transaction) .commit).outcome :
      Effect (Link Tables) Failure (Except Failure Reply)).perform link = _ :=
    congrArg (fun given => (Except.ok given.1, ({ link with server := given.2 } : Link Tables)))
      committed
  rw [Server.commitTransaction, Effect.perform_bind_ok sent]
  rfl

theorem perform_rollBack :
    ((server scan).rollBack transaction).perform link =
      (.ok (),
        { link with
          ongoing := link.ongoing.erase transaction
          server := link.server.setWritten transaction none }) := by
  rfl

end

end Tables

end OutboxRelay.Sql
