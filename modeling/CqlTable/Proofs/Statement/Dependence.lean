import CqlTable.Proofs.Value.Rows
import CqlTable.Statement.Building

/-!
# Dependence: which values of a row a statement is made of

A statement depends on a row only through the values of the columns that it
names: an update on the key of the old row and on the other columns of the new
one. So the spelling of a row does not matter (`statements_of_respelled`).
-/

namespace CqlTable

/-- The rows hold the same values for the columns. -/
def Row.AgreeOn (columns : List Column) (row other : Row) : Prop :=
  ∀ column ∈ columns, row.value column.name = other.value column.name

variable {dialect : Dialect} {schema : TableSchema} {row other : Row}

theorem Row.AgreeOn.of_cons {column : Column} {columns : List Column} (agree : row.AgreeOn (column :: columns) other) :
    row.value column.name = other.value column.name ∧ row.AgreeOn columns other :=
  List.forall_mem_cons.mp agree

namespace Dialect

theorem terms_congr {columns : List Column} (agree : row.AgreeOn columns other) :
    dialect.terms row columns = dialect.terms other columns := by
  induction columns with
  | nil => rfl
  | cons column rest ih =>
    obtain ⟨first, others⟩ := agree.of_cons
    rw [Dialect.terms, Dialect.terms, first, ih others]

theorem missingKey_congr {columns : List Column} (agree : row.AgreeOn columns other) :
    missingKey row columns = missingKey other columns := by
  induction columns with
  | nil => rfl
  | cons column rest ih =>
    obtain ⟨first, others⟩ := agree.of_cons
    rw [missingKey, missingKey, first, ih others]

theorem ofRow_congr (agree : row.AgreeOn schema.keyColumns other) :
    KeyPredicate.ofRow schema row = KeyPredicate.ofRow schema other :=
  List.map_congr_left fun column inKey => by rw [agree column inKey]

theorem rowKey_congr (agree : row.AgreeOn schema.keyColumns other) :
    dialect.rowKey schema row = dialect.rowKey schema other := by
  rw [rowKey, rowKey, missingKey_congr agree, ofRow_congr agree]

theorem insertInto_congr {columns : List Column} (agree : row.AgreeOn columns other) :
    dialect.insertInto schema columns row = dialect.insertInto schema columns other := by
  rw [insertInto, insertInto, terms_congr agree]

theorem delete_congr (agree : row.AgreeOn schema.keyColumns other) :
    dialect.delete schema row = dialect.delete schema other := by
  rw [delete, delete, rowKey_congr agree]

/-- Where there are columns outside the key, nothing else of the new row and
    nothing but the key of the old one plays a part. -/
theorem update_congr {old old' new new' : Row} (others : schema.otherColumns ≠ [])
    (key : old.AgreeOn schema.keyColumns old') (assigned : new.AgreeOn schema.otherColumns new') :
    dialect.update schema old new = dialect.update schema old' new' := by
  have some : ¬ schema.otherColumns.isEmpty = true := by simp [others]
  rw [update, update, if_neg some, if_neg some, terms_congr assigned, rowKey_congr key]

/-- Where all columns are in the key, the old row plays no part. -/
theorem update_congr_key {old old' new new' : Row} (none : schema.otherColumns = [])
    (key : new.AgreeOn schema.keyColumns new') : dialect.update schema old new = dialect.update schema old' new' := by
  have isEmpty : schema.otherColumns.isEmpty = true := by simp [none]
  rw [update, update, if_pos isEmpty, if_pos isEmpty, insertInto_congr key]

end Dialect

/-! ## Respelled rows -/

/-- A row whose names are distinct but for letter case makes the same
    statements, or fails with the same errors, when its entries are put in
    another order and its names are spelled with other ASCII capitals. -/
theorem statements_of_respelled (distinct : row.Distinct) (respelled : row.Respelled other) (dialect : Dialect)
    (schema : TableSchema) :
    dialect.insert schema other = dialect.insert schema row ∧
      (∀ new, dialect.update schema other new = dialect.update schema row new) ∧
      (∀ old, dialect.update schema old other = dialect.update schema old row) ∧
      dialect.delete schema other = dialect.delete schema row ∧
      KeyPredicate.ofRow schema other = KeyPredicate.ofRow schema row := by
  have agree (columns : List Column) : other.AgreeOn columns row := fun column _ =>
    respelled.value distinct column.name
  have itself (columns : List Column) (same : Row) : same.AgreeOn columns same := fun _ _ => rfl
  refine ⟨Dialect.insertInto_congr (agree _), fun new => ?_, fun old => ?_, Dialect.delete_congr (agree _),
    Dialect.ofRow_congr (agree _)⟩
  · by_cases none : schema.otherColumns = []
    · exact Dialect.update_congr_key none (itself _ new)
    · exact Dialect.update_congr none (agree _) (itself _ new)
  · by_cases none : schema.otherColumns = []
    · exact Dialect.update_congr_key none (agree _)
    · exact Dialect.update_congr none (itself _ old) (agree _)

theorem statements_of_respelled_note :
    Row.Distinct [("Id", .scalar (.text "A7")), ("note", .null)] ∧
      Row.Respelled [("Id", .scalar (.text "A7")), ("note", .null)] [("NOTE", .null), ("iD", .scalar (.text "A7"))] ∧
      ({} : Dialect).insert ⟨"shop", "orders", [⟨"id", .textual .text, true, .regular⟩,
          ⟨"note", .textual .text, true, .regular⟩]⟩ [("NOTE", .null), ("iD", .scalar (.text "A7"))] =
        .ok (.insert "shop.orders" [("id", .quoted "A7"), ("note", .null)]) := by
  have distinct : Row.Distinct [("Id", .scalar (.text "A7")), ("note", .null)] := by decide +kernel
  have respelled : Row.Respelled [("Id", .scalar (.text "A7")), ("note", .null)]
      [("NOTE", .null), ("iD", .scalar (.text "A7"))] := by decide +kernel
  refine ⟨distinct, respelled, ?_⟩
  rw [(statements_of_respelled distinct respelled _ _).1]
  rfl

end CqlTable
