import OutboxRelay.Text.Quoted

/-!
# Database failures

Failures of the database and their wording.
-/

namespace OutboxRelay.Sql

/-- How a reader of rows refers to a column. -/
inductive ColumnLabel where
  | name (text : String)
  /-- By its place in the row, the first one being zero. -/
  | place (index : Nat)
deriving DecidableEq, Repr

/-- The text of a reference to a column. -/
def ColumnLabel.text : ColumnLabel → String
  | name text => Text.quoted text
  | place index => toString index

/-- Why a statement gave no result. -/
inductive Failure where
  /-- The server refused the statement. -/
  | refused (text : String)
  /-- A column that must have a value has none. -/
  | missingValue (column : ColumnLabel)
  /-- A row does not have the columns that were selected. -/
  | unreadable
  /-- Every connection of the pool stayed in use. -/
  | noConnection
  /-- The server cut the connection while it read the statement. -/
  | connectionReset
  /-- The server cut the connection earlier. -/
  | connectionClosed
deriving DecidableEq, Repr

/-- The wording of a failed statement. -/
def Failure.message : Failure → String
  | refused text => "error returned from database: " ++ text
  | missingValue column =>
    "error occurred while decoding column " ++ column.text ++
      ": unexpected null; try decoding as an `Option`"
  | unreadable => "error occurred while decoding a row"
  | noConnection => "pool timed out while waiting for an open connection"
  | connectionReset =>
    "error communicating with database: Connection reset by peer (os error 104)"
  | connectionClosed =>
    "error communicating with database: expected to read 5 bytes, got 0 bytes at EOF"

/-- Why a set of migrations was not applied. -/
inductive MigrationFailure where
  /-- An earlier migration began and never ended. -/
  | partiallyApplied (version : Int)
  /-- A migration that was applied has another script now. -/
  | modified (version : Int)
  /-- The script of a migration failed. -/
  | script (version : Int) (cause : Failure)
  /-- A statement around a script failed. -/
  | bookkeeping (cause : Failure)
deriving DecidableEq, Repr

/-- The wording of a failed migration. -/
def MigrationFailure.message : MigrationFailure → String
  | partiallyApplied version =>
    s!"migration {version} is partially applied; fix and remove row from " ++
      "`_sqlx_migrations` table"
  | modified version => s!"migration {version} was previously applied but has been modified"
  | script version cause => s!"while executing migration {version}: " ++ cause.message
  | bookkeeping cause => "while executing migrations: " ++ cause.message

end OutboxRelay.Sql
