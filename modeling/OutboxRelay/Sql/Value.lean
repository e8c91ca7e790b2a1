import OutboxRelay.Identifier
import OutboxRelay.Instant.Basic
import OutboxRelay.Sql.Failure

/-!
# Columns and values

Columns of database tables and the values in them. A value is read as what a field of a record
asks for; nothing is converted on the way, and only a field that may be absent accepts a null.
-/

namespace OutboxRelay.Sql

/-- The types of columns. -/
inductive ColumnType where
  | id
  | text
  | integer
  | time
deriving DecidableEq, Repr

/-- A column of a table. -/
structure Column where
  name : String
  type : ColumnType
deriving DecidableEq, Repr

/-- A value of a column. -/
inductive Value where
  | null
  | id (id : Identifier)
  | text (text : String)
  | integer (value : Int)
  | time (instant : Instant)
deriving DecidableEq, Inhabited

namespace Value

variable {α : Type}

/-- An optional value, absent as null. -/
def ofOption (encode : α → Value) : Option α → Value
  | some value => encode value
  | none => null

/-- The identifier, if the value is one. -/
def id? : Value → Option Identifier
  | id value => some value
  | _ => none

/-- The text, if the value is one. -/
def text? : Value → Option String
  | text value => some value
  | _ => none

/-- The integer, if the value is one. -/
def integer? : Value → Option Int
  | integer value => some value
  | _ => none

/-- The instant, if the value is one. -/
def time? : Value → Option Instant
  | time value => some value
  | _ => none

/-- Read a value that must be there. -/
def required (read : Value → Option α) (column : ColumnLabel) : Value → Except Failure α
  | null => .error (.missingValue column)
  | value =>
    match read value with
    | some content => .ok content
    | none => .error .unreadable

/-- Read a value that may be absent. -/
def optional (read : Value → Option α) : Value → Except Failure (Option α)
  | null => .ok none
  | value =>
    match read value with
    | some content => .ok (some content)
    | none => .error .unreadable

/-- The value as a column keeps it: of an instant whole microseconds. -/
def stored : Value → Value
  | time instant => time instant.stored
  | value => value

/-- A column returns what it once returned unchanged. -/
theorem stored_idem (value : Value) : value.stored.stored = value.stored := by
  cases value <;> simp [stored]

end Value

/-- Read a value of a column that always has one. -/
def Column.read {α : Type} (column : Column) (read : Value → Option α) (value : Value) :
    Except Failure α :=
  value.required read (.name column.name)

/-- A row, in the order of the columns that were asked for. -/
abbrev Row : Type := List Value

end OutboxRelay.Sql
