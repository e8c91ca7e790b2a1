import OutboxRelay.Sql.Value

/-!
# Statements

The statements that are sent to a database. A query is a command together with its parameters,
which the command refers to by number, the first one being number one. Commands insert one row,
select rows of one table or change rows of one table; their conditions all have to hold. All other
statements have no parameters: the borders of transactions and the scripts of migrations.
-/

namespace OutboxRelay.Sql

/-- What a column is set to. -/
inductive Expression where
  | parameter (number : Nat)
  | null
  | integer (value : Nat)
  /-- The moment at which the statement runs. -/
  | now
  /-- The greater one of the column as it is and a parameter. -/
  | greatest (column : Column) (number : Nat)
deriving DecidableEq, Repr

/-- What must hold of a row. -/
inductive Condition where
  | isNull (column : Column)
  | equals (column : Column) (number : Nat)
  | below (column : Column) (number : Nat)
  | atLeast (column : Column) (number : Nat)
deriving DecidableEq, Repr

/-- A command on one table. -/
inductive Command where
  | insert (table : String) (values : List (Column × Expression))
  /-- Rows in ascending order of a column and no more than a parameter says, where both are
  given. -/
  | select (columns : List Column) (table : String) (conditions : List Condition)
      (ascending : Option Column) (limit : Option Nat)
  | update (table : String) (assignments : List (Column × Expression))
      (conditions : List Condition)
deriving DecidableEq, Repr

/-- A command with its parameters. -/
structure Query where
  command : Command
  parameters : List Value
deriving DecidableEq

/-- A statement. -/
inductive Statement where
  | begin
  | commit
  | rollback
  | script (text : String)
  | query (query : Query)
deriving DecidableEq

/-- The statement with its parameters as columns keep them. -/
def Statement.stored : Statement → Statement
  | query asked => query { asked with parameters := asked.parameters.map Value.stored }
  | other => other

/-- How a command refers to a parameter. -/
def placeholder (number : Nat) : String := s!"${number}"

/-- The text of an expression. -/
def Expression.text : Expression → String
  | parameter number => placeholder number
  | null => "NULL"
  | integer value => toString value
  | now => "NOW()"
  | greatest column number => "GREATEST(" ++ column.name ++ ", " ++ placeholder number ++ ")"

/-- The text of a condition. -/
def Condition.text : Condition → String
  | isNull column => column.name ++ " IS NULL"
  | equals column number => column.name ++ " = " ++ placeholder number
  | below column number => column.name ++ " < " ++ placeholder number
  | atLeast column number => column.name ++ " >= " ++ placeholder number

/-- Parts with commas between them. -/
def listed (parts : List String) : String := ", ".intercalate parts

/-- The text of conditions that all have to hold. -/
def conditionsText : List Condition → String
  | [] => ""
  | conditions => " WHERE " ++ " AND ".intercalate (conditions.map Condition.text)

/-- The text of a command. -/
def Command.text : Command → String
  | insert table values =>
    "INSERT INTO " ++ table ++ " (" ++ listed (values.map (·.1.name)) ++ ") VALUES (" ++
      listed (values.map (·.2.text)) ++ ")"
  | select columns table conditions ascending limit =>
    "SELECT " ++ listed (columns.map (·.name)) ++ " FROM " ++ table ++
      conditionsText conditions ++
      (ascending.map fun column => " ORDER BY " ++ column.name ++ " ASC").getD "" ++
      (limit.map fun number => " LIMIT " ++ placeholder number).getD ""
  | update table assignments conditions =>
    "UPDATE " ++ table ++ " SET " ++
      listed (assignments.map fun (column, value) => column.name ++ " = " ++ value.text) ++
      conditionsText conditions

/-- The columns that a command asks for; only a selection asks for any. -/
def Command.selected? : Command → Option (List Column)
  | select columns _ _ _ _ => some columns
  | _ => none

/-- The text of a statement. -/
def Statement.text : Statement → String
  | begin => "BEGIN"
  | commit => "COMMIT"
  | rollback => "ROLLBACK"
  | script text => text
  | query asked => asked.command.text

end OutboxRelay.Sql
