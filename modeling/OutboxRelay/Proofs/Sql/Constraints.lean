import OutboxRelay.Proofs.Sql.Tables

/-!
# A server that checks constraints

The server with tables once more, now with what each table demands of its records besides keys. A
query that would leave a record behind that its table does not allow is refused and writes nothing.
Every other statement is taken as before, so that the laws of the server with tables hold here
wherever no constraint is violated.
-/

namespace OutboxRelay.Sql.Tables

/-- What tables demand of their records, table by table. It is a check of a single record. -/
abbrev Constraint : Type := String → Record → Bool

/-- Whether a query would leave a record behind that its table does not allow. An update is judged
by the records that it would change. -/
def violates (allows : Constraint) (route : Route) (query : Query) (tables : Tables) : Bool :=
  let moment := tables.clock tables.readings
  match query.command with
  | .insert table values =>
    !allows table (Record.ofList (values.map fun (column, expression) =>
      (column, expression.value query moment fun _ => .null)))
  | .select .. => false
  | .update table assignments conditions =>
    (tables.seen route table).any fun record =>
      conditions.all (·.holds query record) &&
        !allows table (record.assign query moment assignments)

/-- Take a statement from a route, unless it violates a constraint. -/
def receiveAllowed (allows : Constraint) (scan : Scan) (route : Route) (statement : Statement)
    (tables : Tables) : Except Failure Reply × Tables :=
  match statement with
  | .query query =>
    if tables.isOpen route && tables.violates allows route query then
      (.error (.refused "new row violates check constraint"), tables.count query.command)
    else tables.receive scan route (.query query)
  | other => tables.receive scan route other

/-- The server itself, which asks the constraints first and is the server with tables otherwise. -/
def constrainedServer (allows : Constraint) (scan : Scan) : Server Tables where
  send route statement := Effect.ofPair (receiveAllowed allows scan route statement)

section

variable {α : Type} {allows : Constraint} {scan : Scan} {link : Link Tables}
  {transaction : Transaction}

/-- The borders of a transaction are not concerned. -/
theorem openTransaction_constrained :
    (constrainedServer allows scan).openTransaction = (server scan).openTransaction := rfl

theorem commitTransaction_constrained :
    (constrainedServer allows scan).commitTransaction transaction =
      (server scan).commitTransaction transaction := rfl

/-- A query that keeps to the constraints is run as if there were none. All laws of the server with
tables can be used for it. -/
theorem perform_sendOn_constrained {route : Route} {query : Query}
    (kept : link.server.violates allows route query = false) :
    ((constrainedServer allows scan).sendOn route (.query query)).perform link =
      ((server scan).sendOn route (.query query)).perform link := by
  have received : receiveAllowed allows scan route (.query query) link.server =
      receive scan route (.query query) link.server := by
    simp [receiveAllowed, kept]
  exact congrArg (fun given => (given.1, ({ link with server := given.2 } : Link Tables))) received

theorem perform_execute_constrained {query : Query}
    (kept : link.server.violates allows (.transaction transaction) query = false) :
    ((constrainedServer allows scan).execute (.transaction transaction) query).perform link =
      ((server scan).execute (.transaction transaction) query).perform link := by
  have asked : ((constrainedServer allows scan).ask (.transaction transaction) query).perform link =
      ((server scan).ask (.transaction transaction) query).perform link :=
    perform_sendOn_constrained kept
  rw [Server.execute, Server.execute, Effect.perform_bind, Effect.perform_bind, asked]

/-- A selection violates no constraint. -/
theorem perform_selectFirst_constrained {columns : List Column} {table : String}
    {conditions : List Condition} {parameters : List Value} (free : link.hasFree = true)
    (read : Row → Except Failure α) :
    ((constrainedServer allows scan).selectFirst
        ⟨.select columns table conditions none none, parameters⟩ read).perform link =
      ((server scan).selectFirst
        ⟨.select columns table conditions none none, parameters⟩ read).perform link := by
  have asked : ((constrainedServer allows scan).ask .pool
        ⟨.select columns table conditions none none, parameters⟩).perform link =
      ((server scan).ask .pool ⟨.select columns table conditions none none, parameters⟩).perform
        link := by
    rw [Server.ask, Server.ask, if_pos rfl, if_pos rfl,
      Effect.perform_bind_ok (perform_acquire free), Effect.perform_bind_ok (perform_acquire free)]
    exact perform_sendOn_constrained rfl
  rw [Server.selectFirst, Server.selectFirst, Effect.perform_bind, Effect.perform_bind, asked]

/-- A statement that writes within a transaction leaves its write behind all that the transaction
wrote before, and what is committed as it is. -/
theorem written_write {tables : Tables} {writes : List Write}
    (ongoing : tables.written transaction = some writes) (command : Command) (write : Write) :
    ((tables.count command).write (.transaction transaction) write).written transaction =
      some (writes ++ [write]) := by
  have counted : (tables.count command).written transaction = some writes := ongoing
  simp [Tables.write, counted]

end

end OutboxRelay.Sql.Tables
