import CqlTable.Schema.LogicalType
import CqlTable.Text.LetterCase

/-!
# Table schemas: columns, their roles and the key

A table is a keyspace, a name and columns in declaration order. Its key is the
partition columns followed by the clustering columns, or the first column when
no column has a role in the key.
-/

namespace CqlTable

/-- What a column is to the primary key. -/
inductive Role
  | regular
  | partitionKey
  | clusteringKey
  deriving DecidableEq

/-- The word for a role. -/
def Role.name : Role → String
  | regular => "regular"
  | partitionKey => "partition_key"
  | clusteringKey => "clustering_key"

/-- A column of a table. -/
structure Column where
  name : String
  type : LogicalType
  nullable : Bool := true
  role : Role := .regular
  deriving DecidableEq

/-- A table of a keyspace. -/
structure TableSchema where
  keyspace : String
  table : String
  columns : List Column
  deriving DecidableEq

/-- A letter or an underscore. -/
def isNameStart (c : Char) : Bool :=
  ('A' ≤ c && c ≤ 'Z') || ('a' ≤ c && c ≤ 'z') || c == '_'

/-- A letter, a digit or an underscore, all of ASCII. -/
def isNameChar (c : Char) : Bool := isNameStart c || ('0' ≤ c && c ≤ '9')

/-- A plain identifier: it needs no quotes in a statement. -/
def isIdentifier (s : String) : Bool :=
  match s.toList with
  | [] => false
  | c :: rest => isNameStart c && rest.all isNameChar

namespace TableSchema

/-- The name of a table with its keyspace. -/
def qualifiedName (schema : TableSchema) : String := schema.keyspace ++ "." ++ schema.table

/-- Columns of a role, in schema order. -/
def columnsOf (schema : TableSchema) (role : Role) : List Column :=
  schema.columns.filter fun column => column.role = role

/-- The columns of the primary key, in key order. -/
def keyColumns (schema : TableSchema) : List Column :=
  match schema.columnsOf .partitionKey ++ schema.columnsOf .clusteringKey with
  | [] => schema.columns.take 1
  | marked => marked

/-- The columns outside the primary key, in schema order. -/
def otherColumns (schema : TableSchema) : List Column :=
  let keyNames := schema.keyColumns.map (·.name)
  schema.columns.filter fun column => !keyNames.contains column.name

/-- The first column of a name, ignoring letter case. -/
def findColumn? (schema : TableSchema) (name : String) : Option Column :=
  schema.columns.find? fun column => Text.sameName column.name name

end TableSchema

end CqlTable
