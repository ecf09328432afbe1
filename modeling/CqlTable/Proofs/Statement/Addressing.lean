import CqlTable.Proofs.Conversion.Null
import CqlTable.Proofs.Statement.Dependence
import CqlTable.Proofs.Statement.Terms

/-!
# Addressing: updates and deletions name one whole key

A condition that is built from a row is the condition on all its key parts: one
equality for each key column, none with null (`Addresses`). A deletion is built
exactly when the row has such a key, and an update of a row with other columns
takes its condition from the old row and its assignments from the new one
(`statements_address_whole_key`).
-/

namespace CqlTable

variable {dialect : Dialect} {schema : TableSchema} {row : Row}

/-! ## Whole keys -/

theorem keyColumns_eq_nil_iff : schema.keyColumns = [] ↔ schema.columns = [] := by
  unfold TableSchema.keyColumns
  split
  · simp
  · rename_i marked nonempty
    refine ⟨fun none => absurd none nonempty, fun none => ?_⟩
    simp [TableSchema.columnsOf, none]

/-- When all parts are given and no map leaves any out, each key column has its
    part. -/
theorem leadingTerms_all {columns : List Column} {value : Column → Value}
    (given : ∀ column ∈ columns, value column ≠ .missing) (position : Nat) :
    leadingTerms none position columns (columns.map value) = columns.map fun column => (column.name, value column) := by
  induction columns generalizing position with
  | nil => rfl
  | cons column rest ih =>
    obtain ⟨first, others⟩ := List.forall_mem_cons.mp given
    simp [leadingTerms, selectsPart, first, ih others]

theorem isNull_eq_false_iff {value : Value} : value.isNull = false ↔ ∃ s, value = .scalar s := by
  cases value with
  | missing => simp [Value.isNull]
  | null => simp [Value.isNull]
  | scalar s => simp [Value.isNull]

/-- Each key column has a value that is not null and that its type can hold. -/
def Row.HasKey (zone : Calendar.Zone) (schema : TableSchema) (row : Row) : Prop :=
  ∀ column ∈ schema.keyColumns, ∃ s literal,
    row.value column.name = .scalar s ∧ encode zone column.type (.scalar s) = .ok literal

/-- The terms are one equality for each key column of the row, none of them with
    null, and together they are the condition on all its key parts. -/
structure Addresses (dialect : Dialect) (schema : TableSchema) (row : Row) (key : List Term) : Prop where
  condition : dialect.keyCondition schema (schema.keyColumns.map fun column => row.value column.name) none =
    .ok (conditionText key)
  terms : List.Forall₂ (Encodes dialect.zone row) schema.keyColumns key
  filled : ∀ term ∈ key, term.2.text ≠ "NULL"

theorem filled_of_encodes {columns : List Column} {terms : List Term}
    (given : ∀ column ∈ columns, (row.value column.name).isNull = false)
    (encodes : List.Forall₂ (Encodes dialect.zone row) columns terms) : ∀ term ∈ terms, term.2.text ≠ "NULL" := by
  induction encodes with
  | nil => simp
  | cons first _ ih =>
    obtain ⟨notNull, others⟩ := List.forall_mem_cons.mp given
    refine List.forall_mem_cons.mpr ⟨fun null => ?_, ih others⟩
    rw [(null_text_iff first.2).mp null] at notNull
    cases notNull

namespace Dialect

/-- The condition of a row with a whole key is that on its key parts. -/
theorem keyCondition_of_key (given : ∀ column ∈ schema.keyColumns, (row.value column.name).isNull = false) :
    dialect.keyCondition schema (schema.keyColumns.map fun column => row.value column.name) none =
      (dialect.predicateTerms schema (KeyPredicate.ofRow schema row)).map conditionText := by
  have parts : ∀ column ∈ schema.keyColumns, row.value column.name ≠ .missing := by
    intro column inKey missing
    have notNull := given column inKey
    rw [missing] at notNull
    cases notNull
  rw [keyCondition, predicate, KeyPredicate.ofParts, leadingTerms_all parts, KeyPredicate.ofRow]

theorem rowKey_addresses (names : schema.WellNamed) {key : List Term} (built : dialect.rowKey schema row = .ok key) :
    Addresses dialect schema row key := by
  have given := ((rowKey_eq_ok_iff names).mp built).1
  have encodes := rowKey_eq_ok names built
  refine ⟨?_, encodes, filled_of_encodes given encodes⟩
  simp only [rowKey, missingKey_eq_ok_iff.mpr given] at built
  rw [keyCondition_of_key given, built]
  rfl

theorem exists_rowKey_iff (names : schema.WellNamed) :
    (∃ key, dialect.rowKey schema row = .ok key) ↔ row.HasKey dialect.zone schema := by
  simp only [rowKey_eq_ok_iff names]
  constructor
  · rintro ⟨key, given, built⟩ column inKey
    obtain ⟨s, value⟩ := isNull_eq_false_iff.mp (given column inKey)
    obtain ⟨literal, encoded⟩ := exists_terms_iff.mp ⟨key, built⟩ column inKey
    exact ⟨s, literal, value, value ▸ encoded⟩
  · intro hasKey
    have encoded : ∀ column ∈ schema.keyColumns, ∃ literal,
        encode dialect.zone column.type (row.value column.name) = .ok literal := by
      intro column inKey
      obtain ⟨s, literal, value, encoded⟩ := hasKey column inKey
      exact ⟨literal, value ▸ encoded⟩
    obtain ⟨key, built⟩ := exists_terms_iff.mpr encoded
    refine ⟨key, fun column inKey => ?_, built⟩
    obtain ⟨s, _, value, -⟩ := hasKey column inKey
    exact isNull_eq_false_iff.mpr ⟨s, value⟩

/-! ## Deletions -/

theorem delete_eq_ok_iff {statement : Statement} :
    dialect.delete schema row = .ok statement ↔
      schema.columns ≠ [] ∧ ∃ key, dialect.rowKey schema row = .ok key ∧
        statement = .delete schema.qualifiedName key := by
  rw [delete, ne_eq, ← keyColumns_eq_nil_iff, ← List.isEmpty_iff]
  split
  · rename_i none
    simp [none]
  · rename_i some
    simp [some, map_eq_ok, eq_comm (a := statement)]

theorem exists_delete_iff (names : schema.WellNamed) :
    (∃ statement, dialect.delete schema row = .ok statement) ↔
      schema.columns ≠ [] ∧ row.HasKey dialect.zone schema := by
  rw [← exists_rowKey_iff names]
  simp only [delete_eq_ok_iff]
  constructor
  · rintro ⟨_, some, key, keyed, -⟩
    exact ⟨some, key, keyed⟩
  · rintro ⟨some, key, keyed⟩
    exact ⟨_, some, key, keyed, rfl⟩

theorem delete_addresses (names : schema.WellNamed) {statement : Statement}
    (built : dialect.delete schema row = .ok statement) :
    ∃ key, statement = .delete schema.qualifiedName key ∧ Addresses dialect schema row key := by
  obtain ⟨-, key, keyed, rfl⟩ := delete_eq_ok_iff.mp built
  exact ⟨key, rfl, rowKey_addresses names keyed⟩

/-! ## Updates -/

theorem update_eq_ok_iff (others : schema.otherColumns ≠ []) {old new : Row} {statement : Statement} :
    dialect.update schema old new = .ok statement ↔
      ∃ assigned key, dialect.terms new schema.otherColumns = .ok assigned ∧
        dialect.rowKey schema old = .ok key ∧ statement = .update schema.qualifiedName assigned key := by
  have someOther : ¬ schema.otherColumns.isEmpty = true := by simp [others]
  have someKey : ¬ schema.keyColumns.isEmpty = true := by
    rw [List.isEmpty_iff, keyColumns_eq_nil_iff]
    intro none
    exact others (by simp [TableSchema.otherColumns, none])
  rw [update, if_neg someKey, if_neg someOther]
  cases dialect.terms new schema.otherColumns with
  | error e => simp
  | ok assigned => simp [map_eq_ok, eq_comm (a := statement)]

theorem exists_update_iff (names : schema.WellNamed) (others : schema.otherColumns ≠ []) {old new : Row} :
    (∃ statement, dialect.update schema old new = .ok statement) ↔
      old.HasKey dialect.zone schema ∧ ∀ column ∈ schema.otherColumns, ∃ literal,
        encode dialect.zone column.type (new.value column.name) = .ok literal := by
  rw [← exists_rowKey_iff names, ← exists_terms_iff]
  simp only [update_eq_ok_iff others]
  constructor
  · rintro ⟨_, assigned, key, sets, keyed, -⟩
    exact ⟨⟨key, keyed⟩, assigned, sets⟩
  · rintro ⟨⟨key, keyed⟩, assigned, sets⟩
    exact ⟨_, assigned, key, sets, keyed, rfl⟩

end Dialect

/-! ## All statements of an accepted schema -/

/-- With an accepted schema, a deletion is built exactly when the row has a
    value for each key column that can be encoded, and its condition is that on
    these values. Where there are other columns, an update has the same
    condition of its old row, sets the other columns of its new row, and depends
    on nothing else. -/
theorem statements_address_whole_key {document : Json} {schema : TableSchema}
    (accepted : TableSchema.ofJson document = .ok schema) (dialect : Dialect) :
    (∀ row, (∃ statement, dialect.delete schema row = .ok statement) ↔
      schema.columns ≠ [] ∧ row.HasKey dialect.zone schema) ∧
    (∀ row statement, dialect.delete schema row = .ok statement →
      ∃ key, Addresses dialect schema row key ∧
        statement.text = "DELETE FROM " ++ schema.qualifiedName ++ " WHERE " ++ conditionText key) ∧
    (schema.otherColumns ≠ [] → ∀ old new,
      ((∃ statement, dialect.update schema old new = .ok statement) ↔
        old.HasKey dialect.zone schema ∧ ∀ column ∈ schema.otherColumns, ∃ literal,
          encode dialect.zone column.type (new.value column.name) = .ok literal) ∧
      (∀ statement, dialect.update schema old new = .ok statement →
        ∃ assigned key, List.Forall₂ (Encodes dialect.zone new) schema.otherColumns assigned ∧
          Addresses dialect schema old key ∧
          statement.text = "UPDATE " ++ schema.qualifiedName ++ " SET " ++
            Text.join ", " (assigned.map termText) ++ " WHERE " ++ conditionText key) ∧
      ∀ old' new', old.AgreeOn schema.keyColumns old' → new.AgreeOn schema.otherColumns new' →
        dialect.update schema old new = dialect.update schema old' new') := by
  have names := wellNamed_of_ofJson accepted
  refine ⟨fun row => Dialect.exists_delete_iff names, ?_, ?_⟩
  · intro row statement built
    obtain ⟨key, rfl, addresses⟩ := Dialect.delete_addresses names built
    exact ⟨key, addresses, rfl⟩
  · intro others old new
    refine ⟨Dialect.exists_update_iff names others, ?_, fun _ _ => Dialect.update_congr others⟩
    intro statement built
    obtain ⟨assigned, key, sets, keyed, rfl⟩ := (Dialect.update_eq_ok_iff others).mp built
    exact ⟨assigned, key, Dialect.terms_eq_ok sets, Dialect.rowKey_addresses names keyed, rfl⟩

theorem whole_key_of_order :
    let schema : TableSchema := ⟨"shop", "orders", [⟨"id", .textual .text, true, .partitionKey⟩,
      ⟨"note", .textual .text, true, .regular⟩]⟩
    let old : Row := [("ID", .scalar (.text "A7")), ("note", .scalar (.text "late"))]
    TableSchema.ofJson (.object [("keyspace", .string "shop"), ("table", .string "orders"),
        ("columns", .array [
          .object [("name", .string "id"), ("type", .object [("kind", .string "text")]),
            ("role", .string "partition_key")],
          .object [("name", .string "note"), ("type", .object [("kind", .string "text")])]])]) = .ok schema ∧
      old.HasKey .utc schema ∧
      (∃ statement, (Dialect.mk .utc false).delete schema old = .ok statement) ∧
      ∃ statement, (Dialect.mk .utc false).update schema old [("note", .null)] = .ok statement := by
  intro schema old
  have accepted : TableSchema.ofJson (.object [("keyspace", .string "shop"), ("table", .string "orders"),
      ("columns", .array [
        .object [("name", .string "id"), ("type", .object [("kind", .string "text")]),
          ("role", .string "partition_key")],
        .object [("name", .string "note"), ("type", .object [("kind", .string "text")])]])]) = .ok schema := by
    rfl
  have hasKey : old.HasKey .utc schema := by
    intro column inKey
    rw [show schema.keyColumns = [⟨"id", .textual .text, true, .partitionKey⟩] from rfl] at inKey
    rw [List.mem_singleton.mp inKey]
    exact ⟨.text "A7", .quoted "A7", by decide +kernel, rfl⟩
  have noteNull : ∀ column ∈ schema.otherColumns, ∃ literal,
      encode .utc column.type (Row.value [("note", .null)] column.name) = .ok literal := by
    intro column isOther
    rw [show schema.otherColumns = [⟨"note", .textual .text, true, .regular⟩] from rfl] at isOther
    rw [List.mem_singleton.mp isOther]
    exact ⟨.null, rfl⟩
  obtain ⟨deletes, -, updates⟩ := statements_address_whole_key accepted (Dialect.mk .utc false)
  have someOther : schema.otherColumns ≠ [] := by simp [show schema.otherColumns = [_] from rfl]
  exact ⟨accepted, hasKey, (deletes old).mpr ⟨by simp [schema], hasKey⟩,
    (updates someOther old _).1.mpr ⟨hasKey, noteNull⟩⟩

end CqlTable
