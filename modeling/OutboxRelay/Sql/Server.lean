import OutboxRelay.Effect
import OutboxRelay.Sql.Failure
import OutboxRelay.Sql.Statement

/-!
# Database servers

A database server as the application meets it. Statements are sent on a free connection of the
pool or within a transaction, which keeps its connection until it ends; if the pool is limited and
all its connections are kept, nothing is sent. A transaction that could not be opened is not there,
so nothing is sent to end it; one whose commit fails is rolled back, and so is one that is given up.
Whether a rollback succeeds makes no difference to the application.
-/

namespace OutboxRelay.Sql

/-- What a server answers to a statement that succeeds. -/
inductive Reply where
  | rows (rows : List Row)
  /-- The number of rows that the statement affected. -/
  | affected (count : UInt64)
deriving DecidableEq, Inhabited

/-- The rows of a reply. -/
def Reply.selected : Reply → List Row
  | rows given => given
  | affected _ => []

/-- The number of rows that a reply speaks of. -/
def Reply.count : Reply → UInt64
  | rows given => .ofNat given.length
  | affected count => count

/-- An open transaction, numbered in the order of opening. -/
structure Transaction where
  number : Nat
deriving DecidableEq, Repr

/-- Where a statement is sent. -/
inductive Route where
  | pool
  | transaction (transaction : Transaction)
deriving DecidableEq, Repr

/-- A server on states `τ`. It answers one statement at a time and may fail on any of them. -/
structure Server (τ : Type) where
  send : Route → Statement → Effect τ Failure Reply

/-- The application's end of a database. It knows which transactions keep a connection, and nothing
of what the server holds. -/
structure Link (τ : Type) where
  /-- How many transactions were opened or tried to be. -/
  opened : Nat := 0
  /-- The transactions that have not ended; each keeps a connection. -/
  ongoing : List Transaction := []
  /-- How many connections the pool has at most, where it is limited. -/
  capacity : Option Nat := none
  server : τ

/-- Whether a connection of the pool is free. -/
def Link.hasFree {τ : Type} (link : Link τ) : Bool :=
  link.capacity.all (link.ongoing.length < ·)

namespace Server

variable {τ α : Type}

/-- Wait for a free connection. -/
def acquire : Effect (Link τ) Failure Unit := do
  unless (← get).hasFree do throw .noConnection

/-- Send a statement. The application's end stays as it is, whatever the server answers. -/
def sendOn (server : Server τ) (route : Route) (statement : Statement) :
    Effect (Link τ) Failure Reply :=
  Effect.onPart (·.server) (fun state link => { link with server := state })
    (server.send route statement)

/-- Send a query, on the pool as soon as a connection is free. A query within a transaction uses the
connection that the transaction has. -/
def ask (server : Server τ) (route : Route) (query : Query) : Effect (Link τ) Failure Reply := do
  if route = .pool then acquire
  server.sendOn route (.query query)

/-- The number of rows that a query affects. -/
def execute (server : Server τ) (route : Route) (query : Query) :
    Effect (Link τ) Failure UInt64 := do
  return (← server.ask route query).count

/-- What the selected rows read as; the first one that cannot be read is the failure, and the rows
behind it are not looked at. -/
def select (server : Server τ) (query : Query) (read : Row → Except Failure α) :
    Effect (Link τ) Failure (List α) := do
  let reply ← server.ask .pool query
  MonadExcept.ofExcept (reply.selected.mapM read)

/-- What the first selected row reads as. -/
def selectFirst (server : Server τ) (query : Query) (read : Row → Except Failure α) :
    Effect (Link τ) Failure (Option α) := do
  let reply ← server.ask .pool query
  match reply.selected with
  | [] => return none
  | row :: _ => return some (← MonadExcept.ofExcept (read row))

/-- Open a transaction. It takes a number even if `BEGIN` fails, but a connection only if that
succeeds. -/
def openTransaction (server : Server τ) : Effect (Link τ) Failure Transaction := do
  acquire
  let link ← get
  let transaction : Transaction := ⟨link.opened⟩
  set { link with opened := link.opened + 1 }
  let _ ← server.sendOn (.transaction transaction) .begin
  modify fun link => { link with ongoing := link.ongoing ++ [transaction] }
  return transaction

/-- Give back the connection of a transaction that ended. -/
def release (transaction : Transaction) : Effect (Link τ) Failure Unit :=
  modify fun link => { link with ongoing := link.ongoing.erase transaction }

/-- Give a transaction up. The connection is free again, whatever the answer to `ROLLBACK`. -/
def rollBack (server : Server τ) (transaction : Transaction) : Effect (Link τ) Failure Unit := do
  let _ ← Effect.ofState (server.sendOn (.transaction transaction) .rollback).outcome
  release transaction

/-- Commit a transaction, or give it up if that fails. The failure of the commit is the one that is
reported. -/
def commitTransaction (server : Server τ) (transaction : Transaction) :
    Effect (Link τ) Failure Unit := do
  match ← Effect.ofState (server.sendOn (.transaction transaction) .commit).outcome with
  | .ok _ => release transaction
  | .error failure =>
    server.rollBack transaction
    throw failure

end Server

end OutboxRelay.Sql
