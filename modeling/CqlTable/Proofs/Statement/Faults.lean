import CqlTable.Statement.Building

/-!
# Faults of building: what shows without a client

A value, a type or a name that a statement cannot be built of is refused before
anything is sent. Such a fault says nothing about a client.
-/

namespace CqlTable

variable {α β : Type}

/-- A fault of a value, a schema or an operation, and not of a client. -/
def Fault.IsLocal : Fault → Prop
  | conversion _ | unsupported _ | configuration _ => True
  | connectionFailed .. | notConnected | executionFailed .. | client _ => False

/-- A result that can only have failed for such a fault. -/
def FailsLocally (result : Except Fault α) : Prop := ∀ fault, result = .error fault → fault.IsLocal

theorem failsLocally_ok (a : α) : FailsLocally (.ok a) := nofun

theorem failsLocally_error {fault : Fault} (isLocal : fault.IsLocal) : FailsLocally (α := α) (.error fault) := by
  rintro _ ⟨⟩
  exact isLocal

theorem FailsLocally.map {result : Except Fault α} (fails : FailsLocally result) (f : α → β) :
    FailsLocally (result.map f) := by
  cases result with
  | error fault => exact failsLocally_error (fails fault rfl)
  | ok a => exact failsLocally_ok (f a)

theorem FailsLocally.ne_notConnected {result : Except Fault α} (fails : FailsLocally result) :
    result ≠ .error .notConnected := fun missing => fails _ missing

theorem orFault_failsLocally (conversion : Conversion α) : FailsLocally conversion.orFault := by
  cases conversion with
  | error e => exact failsLocally_error trivial
  | ok a => exact failsLocally_ok a

namespace Dialect

variable (dialect : Dialect) (schema : TableSchema)

theorem predicateTerms_failsLocally (predicate : KeyPredicate) :
    FailsLocally (dialect.predicateTerms schema predicate) := by
  induction predicate with
  | nil => exact failsLocally_ok []
  | cons term rest ih =>
    obtain ⟨name, value⟩ := term
    unfold predicateTerms
    split
    · exact failsLocally_error trivial
    · split
      · exact failsLocally_error trivial
      · split
        · next fault more => exact failsLocally_error (ih fault more)
        · exact failsLocally_ok _

theorem keyCondition_failsLocally (parts : List Value) (map : Option Double) :
    FailsLocally (dialect.keyCondition schema parts map) :=
  (dialect.predicateTerms_failsLocally schema _).map conditionText

theorem rowKey_failsLocally (row : Row) : FailsLocally (dialect.rowKey schema row) := by
  rw [rowKey]
  cases missingKey row schema.keyColumns with
  | error e => exact failsLocally_error trivial
  | ok _ => exact dialect.predicateTerms_failsLocally schema _

theorem definitions_eq_error_iff {columns : List Column} {fault : Fault} :
    dialect.definitions columns = .error fault ↔ dialect.rejectUnsupported = true ∧
      ∃ column, columns.find? (fun column => !column.type.isSupported) = some column ∧
        fault = .unsupported (.createTable column.name) := by
  induction columns with
  | nil => simp [definitions]
  | cons column rest ih =>
    by_cases refused : dialect.rejectUnsupported = true ∧ ¬ column.type.isSupported = true
    · rw [definitions, definition, if_pos refused]
      simp [refused, eq_comm]
    · have passed : dialect.rejectUnsupported = true → column.type.isSupported = true := by simpa using refused
      have later : dialect.definitions (column :: rest) = .error fault ↔ dialect.definitions rest = .error fault := by
        rw [definitions, definition, if_neg refused]
        cases dialect.definitions rest with
        | error other => simp
        | ok definitions => simp
      rw [later, ih]
      refine and_congr_right fun reject => ?_
      rw [List.find?_cons_of_neg (by simp [passed reject])]

/-- A table is refused for the first of its columns whose type is. -/
theorem createTable_eq_error_iff {fault : Fault} :
    dialect.createTable schema = .error fault ↔ dialect.rejectUnsupported = true ∧
      ∃ column, schema.columns.find? (fun column => !column.type.isSupported) = some column ∧
        fault = .unsupported (.createTable column.name) := by
  rw [createTable, ← definitions_eq_error_iff]
  cases dialect.definitions schema.columns with
  | error other => simp [Except.map]
  | ok columns => simp [Except.map]

theorem createTable_failsLocally : FailsLocally (dialect.createTable schema) := by
  intro fault refused
  obtain ⟨_, _, _, rfl⟩ := (dialect.createTable_eq_error_iff schema).mp refused
  trivial

theorem insertInto_failsLocally (columns : List Column) (row : Row) :
    FailsLocally (dialect.insertInto schema columns row) :=
  (orFault_failsLocally _).map _

theorem update_failsLocally (old new : Row) : FailsLocally (dialect.update schema old new) := by
  unfold update
  split
  · exact failsLocally_error trivial
  · split
    · exact dialect.insertInto_failsLocally schema schema.keyColumns new
    · split
      · exact failsLocally_error trivial
      · exact (dialect.rowKey_failsLocally schema old).map _

theorem delete_failsLocally (row : Row) : FailsLocally (dialect.delete schema row) := by
  unfold delete
  split
  · exact failsLocally_error trivial
  · exact (dialect.rowKey_failsLocally schema row).map _

end Dialect

end CqlTable
