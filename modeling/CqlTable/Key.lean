import CqlTable.Number.Double
import CqlTable.Schema.Table
import CqlTable.Value.Row

/-!
# Keys: equality terms on key columns

A key predicate names key columns in key order, each with the value that it has
to equal. It comes from a whole row or from leading key parts.
-/

namespace CqlTable

/-- Columns, each with the value that it has to equal. -/
abbrev KeyPredicate := List (String × Value)

/-- The key columns of a row with their values. -/
def KeyPredicate.ofRow (schema : TableSchema) (row : Row) : KeyPredicate :=
  schema.keyColumns.map fun column => (column.name, row.value column.name)

/-- Bits of a map of key parts. -/
def mapBits : Nat := 32

/-- Whether a map selects the part at a position. Without a map all parts are
    selected; a map selects none past its bits. -/
def selectsPart (map : Option Double) (position : Nat) : Bool :=
  match map with
  | none => true
  | some map => position < mapBits && map.word32.testBit position

/-- Key columns from `position` on with their parts, up to the first part that
    is missing or not selected. -/
def leadingTerms (map : Option Double) : Nat → List Column → List Value → KeyPredicate
  | position, column :: columns, value :: values =>
    if selectsPart map position ∧ value ≠ .missing then
      (column.name, value) :: leadingTerms map (position + 1) columns values
    else []
  | _, _, _ => []

/-- The leading key columns with their parts. -/
def KeyPredicate.ofParts (schema : TableSchema) (parts : List Value) (map : Option Double) :
    KeyPredicate :=
  leadingTerms map 0 schema.keyColumns parts

end CqlTable
