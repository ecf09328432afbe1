import CqlTable.Proofs.Statement.Addressing

/-!
# Refusals: the first value that cannot be written

A statement on rows is built in passes over columns, and the first value that
cannot be written decides the error (`FirstError`). The passes stand here in
their order, each as a list of checks: an update looks at what it sets before
it looks at the key, and for nulls in the key before it encodes any part of it
(`statements_refused_iff`).
-/

namespace CqlTable

/-! ## Checks in order -/

/-- Checks are done in order, and the error is that of the first one that
    fails. -/
def FirstError (checks : List (Option ConversionError)) (e : ConversionError) : Prop :=
  ∃ before after, checks = before ++ some e :: after ∧ ∀ check ∈ before, check = none

/-- Why a value of a column cannot be encoded: the error of its encoding, with
    the name of the column. -/
def encodingError (zone : Calendar.Zone) (column : Column) (value : Value) : Option ConversionError :=
  match encode zone column.type value with
  | .ok _ => none
  | .error e => some ⟨e.reason, e.target, e.input, some column.name⟩

/-- Why a value cannot be that of a key column: it is null. -/
def nullError (column : Column) (value : Value) : Option ConversionError :=
  if value.isNull then some ⟨.unencodable, .type column.type, "NULL", some column.name⟩ else none

/-- A check of the values that a row has for columns, in their order. -/
def Row.checks (check : Column → Value → Option ConversionError) (row : Row) (columns : List Column) :
    List (Option ConversionError) :=
  columns.map fun column => check column (row.value column.name)

/-- The checks of the key of a row: that no part is null, and that each can be
    encoded. -/
def Row.keyChecks (zone : Calendar.Zone) (schema : TableSchema) (row : Row) : List (Option ConversionError) :=
  row.checks nullError schema.keyColumns ++ row.checks (encodingError zone) schema.keyColumns

variable {checks more : List (Option ConversionError)} {e other : ConversionError}

theorem not_firstError_nil : ¬ FirstError [] e := by
  rintro ⟨before, after, split, -⟩
  cases before <;> cases split

theorem firstError_some_cons : FirstError (some other :: checks) e ↔ other = e := by
  constructor
  · rintro ⟨before, after, split, passed⟩
    cases before with
    | nil =>
      cases split
      rfl
    | cons check before =>
      cases split
      cases passed (some other) (by simp)
  · rintro rfl
    exact ⟨[], checks, rfl, by simp⟩

theorem firstError_none_cons : FirstError (none :: checks) e ↔ FirstError checks e := by
  constructor
  · rintro ⟨before, after, split, passed⟩
    cases before with
    | nil => cases split
    | cons check before =>
      cases split
      exact ⟨before, after, rfl, fun check inside => passed check (List.mem_cons_of_mem _ inside)⟩
  · rintro ⟨before, after, rfl, passed⟩
    exact ⟨none :: before, after, rfl, by simpa using passed⟩

/-- Later checks count only when all earlier ones pass. -/
theorem firstError_append :
    FirstError (checks ++ more) e ↔ FirstError checks e ∨ (∀ check ∈ checks, check = none) ∧ FirstError more e := by
  induction checks with
  | nil => simp [not_firstError_nil]
  | cons check rest ih =>
    cases check with
    | none => simpa [firstError_none_cons] using ih
    | some other => simp [firstError_some_cons]

/-- Some check fails exactly when one is the first to. -/
theorem exists_firstError_iff : (∃ e, FirstError checks e) ↔ ¬ ∀ check ∈ checks, check = none := by
  induction checks with
  | nil => simp [not_firstError_nil]
  | cons check rest ih =>
    cases check with
    | none => simpa [firstError_none_cons] using ih
    | some other => simp [firstError_some_cons]

namespace Dialect

variable {dialect : Dialect} {schema : TableSchema} {row : Row} {columns : List Column}

/-! ## Passes over columns -/

theorem literal_of_encodingError {column : Column} {value : Value}
    (refused : encodingError dialect.zone column value = some e) : dialect.literal column value = .error e := by
  rw [Dialect.literal]
  cases encoded : encode dialect.zone column.type value with
  | ok literal => simp [encodingError, encoded] at refused
  | error other =>
    rw [encodingError, encoded] at refused
    cases refused
    rfl

theorem literal_of_no_error {column : Column} {value : Value} (passed : encodingError dialect.zone column value = none) :
    ∃ literal, dialect.literal column value = .ok literal := by
  rw [Dialect.literal]
  cases encoded : encode dialect.zone column.type value with
  | ok literal => exact ⟨literal, rfl⟩
  | error e => simp [encodingError, encoded] at passed

theorem terms_eq_error_iff :
    dialect.terms row columns = .error e ↔ FirstError (row.checks (encodingError dialect.zone) columns) e := by
  induction columns with
  | nil => exact iff_of_false nofun not_firstError_nil
  | cons column rest ih =>
    rw [terms, Row.checks, List.map_cons]
    cases checked : encodingError dialect.zone column (row.value column.name) with
    | some other => simp [literal_of_encodingError checked, firstError_some_cons]
    | none =>
      obtain ⟨literal, encoded⟩ := literal_of_no_error checked
      rw [encoded, firstError_none_cons, ← Row.checks, ← ih]
      cases dialect.terms row rest <;> simp

theorem missingKey_eq_error_iff : missingKey row columns = .error e ↔ FirstError (row.checks nullError columns) e := by
  induction columns with
  | nil => exact iff_of_false nofun not_firstError_nil
  | cons column rest ih =>
    rw [missingKey, Row.checks, List.map_cons, nullError]
    by_cases null : (row.value column.name).isNull = true
    · simp [null, firstError_some_cons, Literal.text]
    · rw [if_neg null, if_neg null, firstError_none_cons, ih, Row.checks]

theorem nullErrors_eq_none_iff :
    (∀ check ∈ row.checks nullError columns, check = none) ↔ missingKey row columns = .ok () := by
  rw [missingKey_eq_ok_iff, Row.checks, List.forall_mem_map]
  refine forall₂_congr fun column _ => ?_
  simp [nullError]

/-- The key of a row is refused for its first null, and without nulls for its
    first part that cannot be encoded. -/
theorem rowKey_eq_error_iff (names : schema.WellNamed) {fault : Fault} :
    dialect.rowKey schema row = .error fault ↔
      ∃ e, fault = .conversion e ∧ FirstError (row.keyChecks dialect.zone schema) e := by
  rw [rowKey, KeyPredicate.ofRow, predicateTerms_columns names fun column => mem_keyColumns]
  simp only [Row.keyChecks, firstError_append, nullErrors_eq_none_iff, ← terms_eq_error_iff, ← missingKey_eq_error_iff]
  cases missingKey row schema.keyColumns with
  | error e => simp [eq_comm]
  | ok given => cases dialect.terms row schema.keyColumns <;> simp [Conversion.orFault, eq_comm]

/-! ## Statements -/

theorem insertInto_eq_error_iff {fault : Fault} :
    dialect.insertInto schema columns row = .error fault ↔
      ∃ e, fault = .conversion e ∧ FirstError (row.checks (encodingError dialect.zone) columns) e := by
  simp only [insertInto, map_eq_error, ← terms_eq_error_iff]
  cases dialect.terms row columns <;> simp [Conversion.orFault, eq_comm]

/-- What an update checks, in order: all that it sets, and the key of the old
    row; where there is nothing to set, the key of the new row. -/
def updateChecks (dialect : Dialect) (schema : TableSchema) (old new : Row) : List (Option ConversionError) :=
  if schema.otherColumns = [] then new.checks (encodingError dialect.zone) schema.keyColumns
  else new.checks (encodingError dialect.zone) schema.otherColumns ++ old.keyChecks dialect.zone schema

theorem update_eq_error_iff (names : schema.WellNamed) (some : schema.columns ≠ []) {old new : Row} {fault : Fault} :
    dialect.update schema old new = .error fault ↔
      ∃ e, fault = .conversion e ∧ FirstError (dialect.updateChecks schema old new) e := by
  have someKey : ¬ schema.keyColumns.isEmpty = true := by
    rwa [List.isEmpty_iff, keyColumns_eq_nil_iff]
  rw [update, if_neg someKey, updateChecks]
  by_cases none : schema.otherColumns = []
  · rw [if_pos (by simp [none]), if_pos none, insertInto_eq_error_iff]
  · rw [if_neg (by simpa using none), if_neg none]
    have passed : (∀ check ∈ new.checks (encodingError dialect.zone) schema.otherColumns, check = Option.none) ↔
        ∀ e, dialect.terms new schema.otherColumns ≠ .error e := by
      rw [← not_iff_not, ← exists_firstError_iff]
      simp [terms_eq_error_iff]
    simp only [firstError_append, passed, ← terms_eq_error_iff]
    cases dialect.terms new schema.otherColumns with
    | error e => simp [eq_comm]
    | ok assigned => simp [map_eq_error, rowKey_eq_error_iff names]

theorem delete_eq_error_iff (names : schema.WellNamed) (some : schema.columns ≠ []) {fault : Fault} :
    dialect.delete schema row = .error fault ↔
      ∃ e, fault = .conversion e ∧ FirstError (row.keyChecks dialect.zone schema) e := by
  have someKey : ¬ schema.keyColumns.isEmpty = true := by
    rwa [List.isEmpty_iff, keyColumns_eq_nil_iff]
  rw [delete, if_neg someKey, map_eq_error, rowKey_eq_error_iff names]

end Dialect

/-! ## All statements of an accepted schema -/

/-- With an accepted schema, an insertion fails exactly when some value of the
    row cannot be encoded, for the first such column. Updates and deletions are
    unsupported exactly when there are no columns; otherwise they fail exactly
    when one of their checks does, with the error of the first. -/
theorem statements_refused_iff {document : Json} {schema : TableSchema}
    (accepted : TableSchema.ofJson document = .ok schema) (dialect : Dialect) :
    (∀ row fault, dialect.insert schema row = .error fault ↔
      ∃ e, fault = .conversion e ∧ FirstError (row.checks (encodingError dialect.zone) schema.columns) e) ∧
    (∀ old new fault, dialect.update schema old new = .error fault ↔
      (schema.columns = [] ∧ fault = .unsupported (.update schema.qualifiedName)) ∨
      (schema.columns ≠ [] ∧ ∃ e, fault = .conversion e ∧ FirstError (dialect.updateChecks schema old new) e)) ∧
    (∀ row fault, dialect.delete schema row = .error fault ↔
      (schema.columns = [] ∧ fault = .unsupported (.delete schema.qualifiedName)) ∨
      (schema.columns ≠ [] ∧ ∃ e, fault = .conversion e ∧ FirstError (row.keyChecks dialect.zone schema) e)) := by
  have names := wellNamed_of_ofJson accepted
  refine ⟨fun row fault => Dialect.insertInto_eq_error_iff, fun old new fault => ?_, fun row fault => ?_⟩
  · by_cases empty : schema.columns = []
    · have noKey : schema.keyColumns.isEmpty = true := List.isEmpty_iff.mpr (keyColumns_eq_nil_iff.mpr empty)
      rw [Dialect.update, if_pos noKey]
      simp [empty, eq_comm]
    · simp [empty, Dialect.update_eq_error_iff names empty]
  · by_cases empty : schema.columns = []
    · have noKey : schema.keyColumns.isEmpty = true := List.isEmpty_iff.mpr (keyColumns_eq_nil_iff.mpr empty)
      rw [Dialect.delete, if_pos noKey]
      simp [empty, eq_comm]
    · simp [empty, Dialect.delete_eq_error_iff names empty]

/-- The first part of the key cannot be encoded and the second is missing: the
    missing one is reported, and before it a value that is to be set. -/
theorem missing_key_of_order :
    let schema : TableSchema := ⟨"shop", "orders", [⟨"id", .integer .int, true, .partitionKey⟩,
      ⟨"line", .integer .int, true, .clusteringKey⟩, ⟨"paid", .boolean, true, .regular⟩]⟩
    let old : Row := [("id", .scalar (.text "A7"))]
    TableSchema.ofJson (.object [("keyspace", .string "shop"), ("table", .string "orders"),
        ("columns", .array [
          .object [("name", .string "id"), ("type", .object [("kind", .string "int")]),
            ("role", .string "partition_key")],
          .object [("name", .string "line"), ("type", .object [("kind", .string "int")]),
            ("role", .string "clustering_key")],
          .object [("name", .string "paid"), ("type", .object [("kind", .string "boolean")])]])]) = .ok schema ∧
      (Dialect.mk .utc false).delete schema old =
        .error (.conversion ⟨.unencodable, .type (.integer .int), "NULL", some "line"⟩) ∧
      (Dialect.mk .utc false).update schema old [("PAID", .scalar (.text "yes"))] =
        .error (.conversion ⟨.unencodable, .type .boolean, "yes", some "paid"⟩) := by
  intro schema old
  have accepted : TableSchema.ofJson (.object [("keyspace", .string "shop"), ("table", .string "orders"),
      ("columns", .array [
        .object [("name", .string "id"), ("type", .object [("kind", .string "int")]),
          ("role", .string "partition_key")],
        .object [("name", .string "line"), ("type", .object [("kind", .string "int")]),
          ("role", .string "clustering_key")],
        .object [("name", .string "paid"), ("type", .object [("kind", .string "boolean")])]])]) = .ok schema := by
    rfl
  -- What stands after the first failing check is read off the checks.
  have keyChecks : old.keyChecks .utc schema = [none] ++
      some ⟨.unencodable, .type (.integer .int), "NULL", some "line"⟩ ::
        [some ⟨.malformed, .type (.integer .int), "A7", some "id"⟩, none] := by
    decide +kernel
  have updateChecks : (Dialect.mk .utc false).updateChecks schema old [("PAID", .scalar (.text "yes"))] =
      [] ++ some ⟨.unencodable, .type .boolean, "yes", some "paid"⟩ :: old.keyChecks .utc schema := by
    decide +kernel
  obtain ⟨-, updates, deletes⟩ := statements_refused_iff accepted (Dialect.mk .utc false)
  have someColumn : schema.columns ≠ [] := by simp [schema]
  exact ⟨accepted, (deletes _ _).mpr (.inr ⟨someColumn, _, rfl, _, _, keyChecks, by simp⟩),
    (updates _ _ _).mpr (.inr ⟨someColumn, _, rfl, _, _, updateChecks, by simp⟩)⟩

end CqlTable
