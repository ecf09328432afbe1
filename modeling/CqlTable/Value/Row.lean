import CqlTable.Text.LetterCase
import CqlTable.Value.Scalar

/-!
# Rows: values addressed by column name
-/

namespace CqlTable

/-- A row to be written. -/
abbrev Row := Named Value

/-- A row that has been read: a value or null for each column. -/
abbrev DecodedRow := List (String × Option Scalar)

/-- The name under which a row holds its parent, which is not one of its
    entries. -/
def parentName : String := "__proto__"

/-- The row with the given entries. An entry under the name of the parent is
    lost. -/
def DecodedRow.ofEntries (entries : List (String × Option Scalar)) : DecodedRow :=
  entries.filter fun entry => entry.1 ≠ parentName

/-- The value of a column: that of its exact name, and otherwise of the first
    name that equals it but for letter case. -/
def Row.value (row : Row) (column : String) : Value :=
  match Named.get? column row with
  | some value => value
  | none =>
    match row.find? fun entry => Text.sameName entry.1 column with
    | some entry => entry.2
    | none => .missing

end CqlTable
