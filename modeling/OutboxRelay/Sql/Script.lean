import OutboxRelay.Instant.Reader
import OutboxRelay.Json.Basic
import OutboxRelay.Sql.Migration
import OutboxRelay.Text.Blank

/-!
# A scripted database server

A server that plays a script. It has no tables; it keeps every statement and answers queries with
the replies it was given, in their order. Without a reply a selection gives no rows, and any other
query affects one row. A statement that is no query fails if its text, every run of blanks made
one space, contains one of the given parts; it has no reply of its own. What is remembered of a
migration stays when its transaction is rolled back. Cells of a reply are JSON values, read by the
type of their column; a time comes in whole microseconds. A parameter that becomes a time out of
the known years makes the server cut the connection: the statement is not kept, and neither is any
later one of that transaction.
-/

namespace OutboxRelay.Sql

/-- A reply that was given in advance. -/
inductive ScriptedReply where
  | rows (rows : List (List Json))
  | affected (count : Nat)
  | refused (text : String)

/-- The state of a server that plays a script. What it was sent and what it has left to say are all
that there is to it. -/
structure Script where
  /-- The statements sent so far, the first one first. -/
  sent : List Statement := []
  /-- The replies not used up. -/
  replies : List ScriptedReply := []
  /-- Parts of statements that make them fail, with the text of the failure. -/
  refusals : List (String × String) := []
  applied : List Applied := []
  /-- Transactions whose connection was cut. -/
  lost : List Transaction := []

namespace Script

/-- The value that a cell stands for in a column of a type. -/
def cell? : ColumnType → Json → Option Value
  | _, .null => some .null
  | .id, .text text => (Identifier.ofText? text).map .id
  | .text, .text text => some (.text text)
  | .integer, .integer value => some (.integer value)
  | .time, .text text => (Instant.ofText text).toOption.map fun instant => .time instant.stored
  | _, _ => none

/-- The row that cells stand for. -/
def row? (columns : List Column) (cells : List Json) : Option Row :=
  if cells.length = columns.length then
    (columns.zip cells).mapM fun (column, cell) => cell? column.type cell
  else none

/-- What a query is answered when it has no reply. -/
def unscripted (command : Command) : Reply :=
  match command.selected? with
  | some _ => .rows []
  | none => .affected 1

/-- What a reply is to a query. -/
def answer (command : Command) : ScriptedReply → Except Failure Reply
  | .refused text => .error (.refused text)
  | .affected count => .ok (.affected (.ofNat count))
  | .rows rows =>
    match command.selected? with
    | none => .ok (.affected (.ofNat rows.length))
    | some columns =>
      match rows.mapM (row? columns) with
      | some rows => .ok (.rows rows)
      | none => .error .unreadable

/-- Answer a query with the next reply. A reply is used up whether it fits the query or not. -/
def answerQuery (command : Command) (script : Script) : Except Failure Reply × Script :=
  match script.replies with
  | [] => (.ok (unscripted command), script)
  | reply :: replies => (answer command reply, { script with replies })

/-- Whether a part occurs in a text. -/
def occurs (part : List Char) : List Char → Bool
  | [] => part.isEmpty
  | c :: rest => part.isPrefixOf (c :: rest) || occurs part rest

/-- Why a statement that is no query fails, if it does. -/
def refusal? (text : String) (script : Script) : Option String :=
  (script.refusals.find? fun (part, _) => occurs part.toList (Text.squeeze text).toList).map (·.2)

/-- Answer a statement. -/
def answerStatement (statement : Statement) (script : Script) : Except Failure Reply × Script :=
  match statement with
  | .query query => script.answerQuery query.command
  | other =>
    match script.refusal? other.text with
    | some text => (.error (.refused text), script)
    | none => (.ok (.affected 0), script)

/-- Keep a statement. -/
def keep (statement : Statement) (script : Script) : Script :=
  { script with sent := script.sent ++ [statement] }

/-- Whether a parameter can be kept in a column. -/
def isKeepable : Value → Bool
  | .time instant => instant.stored.isKnown
  | _ => true

/-- Whether the server can read a statement. -/
def isReadable : Statement → Bool
  | .query query => query.parameters.all isKeepable
  | _ => true

/-- Whether the connection of a route was cut. -/
def isCut (script : Script) : Route → Bool
  | .pool => false
  | .transaction transaction => script.lost.contains transaction

/-- Cut the connection of a route; on the pool another one takes its place. -/
def cut (route : Route) (script : Script) : Script :=
  match route with
  | .pool => script
  | .transaction transaction => { script with lost := script.lost ++ [transaction] }

/-- Take a statement from a connection. A statement that the server cannot read costs the
connection, and a transaction on it is lost. -/
def receive (route : Route) (statement : Statement) (script : Script) :
    Except Failure Reply × Script :=
  if script.isCut route then (.error .connectionClosed, script)
  else if isReadable statement then (script.keep statement).answerStatement statement
  else (.error .connectionReset, script.cut route)

/-- The server itself. -/
def server : Server Script where
  send route statement := Effect.ofPair (receive route statement)

/-- The server with its memory of migrations. -/
def catalogue : Catalogue Script where
  server
  applied := (·.applied)
  remember row script := { script with applied := script.applied ++ [row] }

/-- The remembered migrations in the order of their versions. -/
def history (script : Script) : List Applied :=
  script.applied.mergeSort fun a b => a.version ≤ b.version

end Script

end OutboxRelay.Sql
