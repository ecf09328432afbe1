import CqlTable.Proofs.Conversion.Basic
import CqlTable.Proofs.Schema.Accepted
import CqlTable.Statement.Building

/-!
# Terms: what built statements hold

Each column of a statement stands with the literal of its value in a row, also
where a predicate finds the column by its name again.
-/

namespace CqlTable

/-- The term holds the name of the column and the literal of its value. -/
def Encodes (zone : Calendar.Zone) (row : Row) (column : Column) (term : Term) : Prop :=
  term.1 = column.name ∧ encode zone column.type (row.value column.name) = .ok term.2

namespace Dialect

variable {dialect : Dialect} {schema : TableSchema} {row : Row}

theorem terms_eq_ok {columns : List Column} {terms : List Term} (built : dialect.terms row columns = .ok terms) :
    List.Forall₂ (Encodes dialect.zone row) columns terms := by
  induction columns generalizing terms with
  | nil =>
    cases built
    exact .nil
  | cons column rest ih =>
    unfold Dialect.terms Dialect.literal at built
    cases encoded : encode dialect.zone column.type (row.value column.name) with
    | error e => simp [encoded] at built
    | ok literal =>
      cases more : dialect.terms row rest with
      | error e => simp [encoded, more] at built
      | ok others =>
        simp only [encoded, more] at built
        cases built
        exact .cons ⟨rfl, encoded⟩ (ih more)

/-- Terms are built where each value can be encoded. -/
theorem exists_terms_iff {columns : List Column} :
    (∃ terms, dialect.terms row columns = .ok terms) ↔
      ∀ column ∈ columns, ∃ literal, encode dialect.zone column.type (row.value column.name) = .ok literal := by
  induction columns with
  | nil => simp [Dialect.terms]
  | cons column rest ih =>
    rw [List.forall_mem_cons, ← ih, Dialect.terms, Dialect.literal]
    cases encode dialect.zone column.type (row.value column.name) with
    | error e => simp
    | ok literal => cases dialect.terms row rest <;> simp

/-- A predicate on columns of the schema holds the literals of those
    columns. -/
theorem predicateTerms_columns (names : schema.WellNamed) {columns : List Column}
    (inside : ∀ column ∈ columns, column ∈ schema.columns) :
    dialect.predicateTerms schema (columns.map fun column => (column.name, row.value column.name)) =
      Conversion.orFault (dialect.terms row columns) := by
  induction columns with
  | nil => rfl
  | cons column rest ih =>
    have found := names.find (inside column (by simp))
    have others := ih fun other inRest => inside other (by simp [inRest])
    simp only [List.map_cons, Dialect.predicateTerms, found, others, Dialect.terms]
    cases dialect.literal column (row.value column.name) with
    | error e => rfl
    | ok literal =>
      cases dialect.terms row rest with
      | error e => rfl
      | ok terms => rfl

theorem insertInto_eq_ok {columns : List Column} {statement : Statement}
    (built : dialect.insertInto schema columns row = .ok statement) :
    ∃ terms, statement = .insert schema.qualifiedName terms ∧
      List.Forall₂ (Encodes dialect.zone row) columns terms := by
  obtain ⟨terms, encoded, rfl⟩ := map_eq_ok.mp built
  exact ⟨terms, rfl, terms_eq_ok (orFault_eq_ok.mp encoded)⟩

theorem missingKey_eq_ok_iff {columns : List Column} :
    missingKey row columns = .ok () ↔ ∀ column ∈ columns, (row.value column.name).isNull = false := by
  induction columns with
  | nil => simp [missingKey]
  | cons column rest ih =>
    rw [missingKey, List.forall_mem_cons, ← ih]
    by_cases null : (row.value column.name).isNull = true
    · simp [null]
    · simp [null]

/-- The key of a row without nulls in it is the terms of the key columns. -/
theorem rowKey_eq_ok_iff (names : schema.WellNamed) {terms : List Term} :
    dialect.rowKey schema row = .ok terms ↔
      (∀ column ∈ schema.keyColumns, (row.value column.name).isNull = false) ∧
        dialect.terms row schema.keyColumns = .ok terms := by
  rw [Dialect.rowKey, KeyPredicate.ofRow, predicateTerms_columns names fun column => mem_keyColumns,
    ← missingKey_eq_ok_iff]
  cases missing : missingKey row schema.keyColumns with
  | error e => simp
  | ok given => simp [orFault_eq_ok]

theorem rowKey_eq_ok (names : schema.WellNamed) {terms : List Term} (built : dialect.rowKey schema row = .ok terms) :
    List.Forall₂ (Encodes dialect.zone row) schema.keyColumns terms :=
  terms_eq_ok ((rowKey_eq_ok_iff names).mp built).2

/-- An update sets the columns outside the key where there are any, and puts in
    the key otherwise. -/
theorem update_eq_ok (names : schema.WellNamed) {old new : Row} {statement : Statement}
    (built : dialect.update schema old new = .ok statement) :
    (schema.otherColumns = [] ∧ ∃ terms, statement = .insert schema.qualifiedName terms ∧
      List.Forall₂ (Encodes dialect.zone new) schema.keyColumns terms) ∨
    (schema.otherColumns ≠ [] ∧ ∃ assigned key, statement = .update schema.qualifiedName assigned key ∧
      List.Forall₂ (Encodes dialect.zone new) schema.otherColumns assigned ∧
      List.Forall₂ (Encodes dialect.zone old) schema.keyColumns key) := by
  unfold Dialect.update at built
  split at built
  · cases built
  · split at built
    · rename_i none
      exact Or.inl ⟨List.isEmpty_iff.mp none, insertInto_eq_ok built⟩
    · rename_i some
      refine Or.inr ⟨fun none => some (by simp [none]), ?_⟩
      split at built
      · cases built
      · rename_i assigned encoded
        obtain ⟨key, keyed, rfl⟩ := map_eq_ok.mp built
        exact ⟨assigned, key, rfl, terms_eq_ok encoded, rowKey_eq_ok names keyed⟩

theorem delete_eq_ok (names : schema.WellNamed) {statement : Statement}
    (built : dialect.delete schema row = .ok statement) :
    ∃ key, statement = .delete schema.qualifiedName key ∧
      List.Forall₂ (Encodes dialect.zone row) schema.keyColumns key := by
  unfold Dialect.delete at built
  split at built
  · cases built
  · obtain ⟨key, keyed, rfl⟩ := map_eq_ok.mp built
    exact ⟨key, rfl, rowKey_eq_ok names keyed⟩

end Dialect

end CqlTable
