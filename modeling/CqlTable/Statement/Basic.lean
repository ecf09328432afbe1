import CqlTable.Conversion.Literal
import CqlTable.Number.Shortest
import CqlTable.Text.Pieces

/-!
# Statements: what is sent to the database

A statement holds the names and literals that it is made of; its text puts the
fixed words of its kind around them.
-/

namespace CqlTable

/-- A column with a literal. -/
abbrev Term := String × Literal

/-- The names of a primary key. -/
structure PrimaryKey where
  partition : List String
  clustering : List String
  deriving DecidableEq

/-- A statement. -/
inductive Statement
  | createKeyspace (keyspace : String) (replicas : Double)
  | useKeyspace (keyspace : String)
  | createTable (table : String) (columns : List (String × String)) (key : Option PrimaryKey)
  | dropTable (table : String)
  | truncate (table : String)
  | insert (table : String) (cells : List Term)
  | update (table : String) (assignments key : List Term)
  | delete (table : String) (key : List Term)
  | select (table : String) (columns : List String) (condition : String) (filtering : Bool)
  deriving DecidableEq

/-- A column and its literal with an equals sign between. -/
def termText (term : Term) : String := term.1 ++ " = " ++ term.2.text

/-- Terms that all have to hold. -/
def conditionText (terms : List Term) : String := Text.join " AND " (terms.map termText)

/-- The clause of a primary key. Several partition columns stand in parentheses
    of their own. -/
def PrimaryKey.text (key : PrimaryKey) : String :=
  let partition :=
    if 1 < key.partition.length then ["(" ++ Text.join ", " key.partition ++ ")"] else key.partition
  "PRIMARY KEY (" ++ Text.join ", " (partition ++ key.clustering) ++ ")"

/-- The text of a statement. -/
def Statement.text : Statement → String
  | createKeyspace keyspace replicas =>
    "CREATE KEYSPACE IF NOT EXISTS " ++ keyspace ++ " WITH replication = " ++
      "\x7b'class': 'SimpleStrategy', 'replication_factor': " ++ replicas.text ++ "\x7d"
  | useKeyspace keyspace => "USE " ++ keyspace
  | createTable table columns key =>
    let definitions := columns.map fun column => column.1 ++ " " ++ column.2
    "CREATE TABLE IF NOT EXISTS " ++ table ++ " (" ++
      Text.join ", " (definitions ++ (key.map PrimaryKey.text).toList) ++ ")"
  | dropTable table => "DROP TABLE IF EXISTS " ++ table
  | truncate table => "TRUNCATE " ++ table
  | insert table cells =>
    "INSERT INTO " ++ table ++ " (" ++ Text.join ", " (cells.map (·.1)) ++ ") VALUES (" ++
      Text.join ", " (cells.map fun cell => cell.2.text) ++ ")"
  | update table assignments key =>
    "UPDATE " ++ table ++ " SET " ++ Text.join ", " (assignments.map termText) ++ " WHERE " ++
      conditionText key
  | delete table key => "DELETE FROM " ++ table ++ " WHERE " ++ conditionText key
  | select table columns condition filtering =>
    "SELECT " ++ (if columns.isEmpty then "*" else Text.join ", " columns) ++ " FROM " ++ table ++
      (if condition.isEmpty then "" else " WHERE " ++ condition) ++
      (if filtering then " ALLOW FILTERING" else "")

end CqlTable
