import CqlTable.Proofs.Named
import CqlTable.Proofs.Schema.Accepted
import CqlTable.Result.Rows

/-!
# Columns of results: cells found by name

The position of a name is that of the first name which equals it but for letter
case. A row without errors has a value or null for each column of the schema;
any row has null and an error for the cells that do not decode.
-/

namespace CqlTable

/-! ## Positions of names -/

theorem get_columnIndexFrom (key : String) (sofar : Named Nat) (position : Nat) (names : List String) :
    Named.get? key (columnIndexFrom sofar position names) =
      (Named.get? key sofar).or ((names.findIdx? fun name => Text.lower name == key).map (· + position)) := by
  induction names generalizing sofar position with
  | nil => simp [columnIndexFrom]
  | cons name rest ih =>
    rw [columnIndexFrom, ih, List.findIdx?_cons]
    by_cases same : Text.lower name = key
    · subst same
      cases earlier : Named.get? (Text.lower name) sofar with
      | none => simp [get_append, earlier, Named.get?]
      | some first => simp [earlier]
    · have unchanged : Named.get? key (if (Named.get? (Text.lower name) sofar).isSome then sofar
          else sofar ++ [(Text.lower name, position)]) = Named.get? key sofar := by
        split
        · rfl
        · simp [get_append, Named.get?, same]
      simp only [unchanged, beq_iff_eq, same, ↓reduceIte, Option.map_map]
      congr 2
      funext i
      simp only [Function.comp_apply]
      omega

/-- A name stands for the first column that equals it but for letter case. -/
theorem get_columnIndex (key : String) (names : List String) :
    Named.get? key (columnIndex names) = names.findIdx? fun name => Text.lower name == key := by
  rw [columnIndex, get_columnIndexFrom]
  simp [Named.get?]

/-- Columns with distinct names stand for themselves. -/
theorem get_columnIndex_self {columns : List Column} {column : Column} {i : Nat}
    (distinct : (columns.map fun column => Text.lower column.name).Nodup) (found : columns[i]? = some column) :
    Named.get? (Text.lower column.name) (columnIndex (columns.map (·.name))) = some i := by
  obtain ⟨inside, here⟩ := List.getElem?_eq_some_iff.mp found
  rw [get_columnIndex, List.findIdx?_map, List.findIdx?_eq_some_iff_getElem]
  refine ⟨inside, by simp [here], fun j before => ?_⟩
  have unlike := List.nodup_iff_getElem?_ne_getElem?.mp distinct j i before (by simpa using inside)
  have earlier : j < columns.length := by omega
  simpa [found, earlier] using unlike

/-! ## Rows without errors -/

theorem columnValue_self {columns : List Column} {cells : List String} {column : Column} {cell : String} {i : Nat}
    {value : Option Scalar} (distinct : (columns.map fun column => Text.lower column.name).Nodup)
    (found : columns[i]? = some column) (cellIs : cells[i]? = some cell)
    (decoded : decode column.type cell = .ok value) :
    columnValue (columnIndex (columns.map (·.name))) cells column = .ok value := by
  have own : (Named.get? (Text.lower column.name) (columnIndex (columns.map (·.name)))).bind (cells[·]?) =
      some cell := by
    rw [get_columnIndex_self distinct found]
    exact cellIs
  rw [columnValue, own]
  simp only [decoded]

/-- A value or null was read from a cell, or there is no cell. -/
theorem columnValue_eq_some {index : Named Nat} {cells : List String} {column : Column} {s : Scalar}
    (read : columnValue index cells column = .ok (some s)) : ∃ cell, decode column.type cell = .ok (some s) := by
  unfold columnValue at read
  split at read
  · cases read
  · rename_i cell _
    split at read
    · rename_i value decoded
      cases read
      exact ⟨cell, decoded⟩
    · cases read

theorem materializeColumns_ok {index : Named Nat} {cells : List String} {columns : List Column}
    {value : Column → Option Scalar} (each : ∀ column ∈ columns, columnValue index cells column = .ok (value column)) :
    materializeColumns index cells columns =
      ⟨.ofEntries (columns.map fun column => (column.name, value column)), []⟩ := by
  have values : (columns.map fun column => (column.name, columnValue index cells column)) =
      columns.map fun column => (column.name, .ok (value column)) :=
    List.map_congr_left fun column inside => by rw [each column inside]
  rw [materializeColumns, values]
  simp only [List.map_map, MaterializedRow.mk.injEq]
  constructor
  · rfl
  · simp

/-- A row without errors comes from columns that all have a value or null. -/
theorem materializeColumns_clean {index : Named Nat} {cells : List String} {columns : List Column} {row : DecodedRow}
    (clean : materializeColumns index cells columns = ⟨row, []⟩) :
    ∃ value : Column → Option Scalar, (∀ column ∈ columns, columnValue index cells column = .ok (value column)) ∧
      row = .ofEntries (columns.map fun column => (column.name, value column)) := by
  unfold materializeColumns at clean
  obtain ⟨rowIs, noErrors⟩ := MaterializedRow.mk.inj clean
  refine ⟨fun column => (columnValue index cells column).toOption.join, fun column inside => ?_, ?_⟩
  · cases read : columnValue index cells column with
    | ok value =>
      simp only [read]
      rfl
    | error e =>
      have none := List.filterMap_eq_nil_iff.mp noErrors (column.name, columnValue index cells column)
        (List.mem_map.mpr ⟨column, inside, rfl⟩)
      simp [read] at none
  · rw [← rowIs, List.map_map]
    rfl

/-! ## Rows cell by cell -/

/-- The cell of a column: that of the first name of the result which equals its
    name but for letter case. -/
def cellOf (names cells : List String) (column : Column) : Option String :=
  (names.findIdx? fun name => Text.sameName name column.name).bind (cells[·]?)

/-- Why the cell of a column does not decode. -/
def failureOf (names cells : List String) (column : Column) : Option ConversionError :=
  match (cellOf names cells column).map (decode column.type) with
  | some (.error e) => some (e.forColumn column.name)
  | _ => none

/-- What the cell of a column decodes to; null if it does not, or if there is no
    cell. -/
def valueOf (names cells : List String) (column : Column) : Option Scalar :=
  match (cellOf names cells column).map (decode column.type) with
  | some (.ok value) => value
  | _ => none

/-- The columns of a schema with their values. -/
def rowOf (schema : TableSchema) (names cells : List String) : DecodedRow :=
  .ofEntries (schema.columns.map fun column => (column.name, valueOf names cells column))

/-- Why cells of the columns of a schema do not decode, in schema order. -/
def failuresOf (schema : TableSchema) (names cells : List String) : List ConversionError :=
  schema.columns.filterMap (failureOf names cells)

theorem columnValue_cellOf (names cells : List String) (column : Column) :
    (columnValue (columnIndex names) cells column).toOption.join = valueOf names cells column ∧
      (match columnValue (columnIndex names) cells column with
        | .ok _ => none
        | .error e => some e) = failureOf names cells column := by
  have same : (Named.get? (Text.lower column.name) (columnIndex names)).bind (cells[·]?) =
      cellOf names cells column := by
    rw [get_columnIndex]
    rfl
  rw [columnValue, same, valueOf, failureOf]
  cases cellOf names cells column with
  | none => exact ⟨rfl, rfl⟩
  | some cell =>
    simp only [Option.map_some]
    cases decode column.type cell with
    | error e => exact ⟨rfl, rfl⟩
    | ok value => exact ⟨rfl, rfl⟩

theorem materialize_eq (names cells : List String) (schema : TableSchema) :
    materialize names cells schema = ⟨rowOf schema names cells, failuresOf schema names cells⟩ := by
  rw [materialize, materializeColumns, rowOf, failuresOf, List.map_map, List.filterMap_map]
  congr 1
  · exact congrArg DecodedRow.ofEntries (List.map_congr_left fun column _ =>
      congrArg (column.name, ·) (columnValue_cellOf names cells column).1)
  · exact List.filterMap_congr fun column _ => (columnValue_cellOf names cells column).2

end CqlTable
