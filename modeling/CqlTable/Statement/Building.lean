import CqlTable.Conversion.Encode
import CqlTable.Key
import CqlTable.Statement.Basic

/-!
# Building statements: rows and keys of a schema

A statement is built whole or not at all; the first value that cannot be
encoded decides the error, which names its column.
-/

namespace CqlTable

/-- How values and types become statements: the zone of timestamps, and whether
    columns without a type of their own are refused. -/
structure Dialect where
  zone : Calendar.Zone := .local
  rejectUnsupported : Bool := false

namespace Dialect

/-- The literal of a value of a column. -/
def literal (dialect : Dialect) (column : Column) (value : Value) : Conversion Literal :=
  match encode dialect.zone column.type value with
  | .ok literal => .ok literal
  | .error e => .error (e.forColumn column.name)

/-- Columns with the literals of their values in a row. -/
def terms (dialect : Dialect) (row : Row) : List Column → Conversion (List Term)
  | [] => .ok []
  | column :: rest =>
    match dialect.literal column (row.value column.name) with
    | .error e => .error e
    | .ok literal =>
      match dialect.terms row rest with
      | .error e => .error e
      | .ok terms => .ok ((column.name, literal) :: terms)

/-- The terms of a predicate, with the names of the schema. -/
def predicateTerms (dialect : Dialect) (schema : TableSchema) : KeyPredicate → Except Fault (List Term)
  | [] => .ok []
  | (name, value) :: rest =>
    match schema.findColumn? name with
    | none => .error (.configuration (.unknownColumn name schema.qualifiedName))
    | some column =>
      match dialect.literal column value with
      | .error e => .error (.conversion e)
      | .ok literal =>
        match dialect.predicateTerms schema rest with
        | .error e => .error e
        | .ok terms => .ok ((column.name, literal) :: terms)

/-- The text of a predicate. -/
def predicate (dialect : Dialect) (schema : TableSchema) (p : KeyPredicate) : Except Fault String :=
  (dialect.predicateTerms schema p).map conditionText

/-- The condition on leading key parts. -/
def keyCondition (dialect : Dialect) (schema : TableSchema) (parts : List Value) (map : Option Double) :
    Except Fault String :=
  dialect.predicate schema (KeyPredicate.ofParts schema parts map)

/-- An error when a key column has no value, for the first such column. -/
def missingKey (row : Row) : List Column → Conversion Unit
  | [] => .ok ()
  | column :: rest =>
    if (row.value column.name).isNull then
      .error ⟨.unencodable, .type column.type, Literal.null.text, some column.name⟩
    else missingKey row rest

/-- The terms of the whole key of a row. Key columns hold no nulls, so a row
    without a value for one cannot be addressed. -/
def rowKey (dialect : Dialect) (schema : TableSchema) (row : Row) : Except Fault (List Term) :=
  match missingKey row schema.keyColumns with
  | .error e => .error (.conversion e)
  | .ok () => dialect.predicateTerms schema (KeyPredicate.ofRow schema row)

/-- The definition of a column; one without a mapping may be refused. -/
def definition (dialect : Dialect) (column : Column) : Except Fault (String × String) :=
  if dialect.rejectUnsupported ∧ ¬ column.type.isSupported then
    .error (.unsupported (.createTable column.name))
  else .ok (column.name, column.type.cqlName)

/-- The definitions of columns, in order. -/
def definitions (dialect : Dialect) : List Column → Except Fault (List (String × String))
  | [] => .ok []
  | column :: rest =>
    match dialect.definition column with
    | .error e => .error e
    | .ok d =>
      match dialect.definitions rest with
      | .error e => .error e
      | .ok ds => .ok (d :: ds)

/-- The primary key of a schema; one without columns has none. -/
def primaryKey (schema : TableSchema) : Option PrimaryKey :=
  let key := schema.keyColumns
  if key.isEmpty then none
  else some
    ⟨(key.filter fun column => column.role = .partitionKey).map (·.name),
      (key.filter fun column => column.role ≠ .partitionKey).map (·.name)⟩

/-- Creation of a table. -/
def createTable (dialect : Dialect) (schema : TableSchema) : Except Fault Statement :=
  (dialect.definitions schema.columns).map fun columns =>
    .createTable schema.qualifiedName columns (primaryKey schema)

/-- A row put into columns of the table. -/
def insertInto (dialect : Dialect) (schema : TableSchema) (columns : List Column) (row : Row) :
    Except Fault Statement :=
  (Conversion.orFault (dialect.terms row columns)).map (.insert schema.qualifiedName)

/-- A row put into the table. -/
def insert (dialect : Dialect) (schema : TableSchema) (row : Row) : Except Fault Statement :=
  dialect.insertInto schema schema.columns row

/-- A row in the place of the row with the key of `old`. Where all columns are
    in the key there is nothing to set, and the new row is put in. -/
def update (dialect : Dialect) (schema : TableSchema) (old new : Row) : Except Fault Statement :=
  if schema.keyColumns.isEmpty then .error (.unsupported (.update schema.qualifiedName))
  else if schema.otherColumns.isEmpty then dialect.insertInto schema schema.keyColumns new
  else
    match dialect.terms new schema.otherColumns with
    | .error e => .error (.conversion e)
    | .ok assignments => (dialect.rowKey schema old).map (.update schema.qualifiedName assignments)

/-- Removal of the row with the key of `row`. -/
def delete (dialect : Dialect) (schema : TableSchema) (row : Row) : Except Fault Statement :=
  if schema.keyColumns.isEmpty then .error (.unsupported (.delete schema.qualifiedName))
  else (dialect.rowKey schema row).map (.delete schema.qualifiedName)

end Dialect

/-- A query for the columns of a table. Blanks around the condition do not
    count. -/
def Statement.selectFrom (schema : TableSchema) (condition : String) (filtering : Bool) : Statement :=
  .select schema.qualifiedName (schema.columns.map (·.name)) (Text.trim condition) filtering

end CqlTable
