import CqlTable.Conversion.Decode
import CqlTable.Schema.Table
import CqlTable.Value.Row

/-!
# Result rows: cells mapped onto schema columns

Cells are found by the name of their column, ignoring letter case and the order
of the result. A cell that does not decode leaves null and an error.
-/

namespace CqlTable

/-- The answer to a query: names of columns, and rows of cells. -/
structure QueryResult where
  columnNames : List String
  rows : List (List String)
  deriving DecidableEq

/-- The position of each lower case name, the first of those that are equal;
    `sofar` holds the names before `position`. -/
def columnIndexFrom (sofar : Named Nat) : Nat → List String → Named Nat
  | _, [] => sofar
  | position, name :: rest =>
    let key := Text.lower name
    columnIndexFrom
      (if (Named.get? key sofar).isSome then sofar else sofar ++ [(key, position)]) (position + 1) rest

/-- The position of each column of a result by its lower case name. -/
def columnIndex (names : List String) : Named Nat := columnIndexFrom [] 0 names

/-- A row that has been read, and the errors of cells that did not decode. -/
structure MaterializedRow where
  row : DecodedRow
  errors : List ConversionError
  deriving DecidableEq

/-- What a column gets from its cell: a value, null or an error. -/
def columnValue (index : Named Nat) (cells : List String) (column : Column) :
    Conversion (Option Scalar) :=
  match (Named.get? (Text.lower column.name) index).bind (cells[·]?) with
  | none => .ok none
  | some cell =>
    match decode column.type cell with
    | .ok value => .ok value
    | .error e => .error (e.forColumn column.name)

/-- The row of columns, with null where a cell did not decode. -/
def materializeColumns (index : Named Nat) (cells : List String) (columns : List Column) :
    MaterializedRow :=
  let values := columns.map fun column => (column.name, columnValue index cells column)
  ⟨.ofEntries (values.map fun (name, value) => (name, value.toOption.join)),
    values.filterMap fun (_, value) =>
      match value with
      | .ok _ => none
      | .error e => some e⟩

/-- The row of a schema in the cells of a result. -/
def materialize (columnNames cells : List String) (schema : TableSchema) : MaterializedRow :=
  materializeColumns (columnIndex columnNames) cells schema.columns

/-- All rows of a result. -/
def materializeAll (result : QueryResult) (schema : TableSchema) : List MaterializedRow :=
  let index := columnIndex result.columnNames
  result.rows.map fun cells => materializeColumns index cells schema.columns

end CqlTable
