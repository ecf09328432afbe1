import CqlTable.Proofs.Schema.Documents

/-!
# Accepted schemas: plain identifiers and distinct column names

A document is accepted exactly when it is well formed and no two of its columns
have the same name (`accepted_iff`). Where only names of columns are wrong, there
is one issue for each column whose name an earlier one has.
-/

namespace CqlTable

open Text

/-! ## Names that come again -/

theorem duplicateIssues_eq_nil {seen : List String} {position : Nat} {names : List String} :
    TableSchema.duplicateIssues seen position names = [] ↔
      (names.map lower).Nodup ∧ ∀ name ∈ names, lower name ∉ seen := by
  induction names generalizing seen position with
  | nil => simp [TableSchema.duplicateIssues]
  | cons name rest ih =>
    have fresh : (if seen.contains (lower name) then
        [(⟨["columns", Text.numeral position, "name"], .duplicateColumn name⟩ : Issue)] else []) = [] ↔
        lower name ∉ seen := by simp
    have unseen : (∀ other ∈ rest, lower other ∉ lower name :: seen) ↔
        lower name ∉ rest.map lower ∧ ∀ other ∈ rest, lower other ∉ seen := by
      simp only [List.mem_cons, not_or, List.mem_map, not_exists, not_and]
      exact ⟨fun all => ⟨fun other inside => (all other inside).1, fun other inside => (all other inside).2⟩,
        fun ⟨new, old⟩ other inside => ⟨new other inside, old other inside⟩⟩
    rw [TableSchema.duplicateIssues, List.append_eq_nil_iff, fresh, ih, unseen, List.map_cons, List.nodup_cons,
      List.forall_mem_cons]
    tauto

/-- The names that equal an earlier one but for the case of ASCII letters, with
    their positions. -/
def repeated (names : List String) : List (String × Nat) :=
  names.zipIdx.filter fun entry => (names.take entry.2).any fun earlier => foldAscii earlier = foldAscii entry.1

/-- The issue that a name of a column equals an earlier one. -/
def duplicateIssue (entry : String × Nat) : Issue :=
  ⟨["columns", Text.numeral entry.2, "name"], .duplicateColumn entry.1⟩

theorem duplicateIssues_eq {seen before names : List String}
    (hasSeen : ∀ key, key ∈ seen ↔ ∃ earlier ∈ before, lower earlier = key) :
    TableSchema.duplicateIssues seen before.length names =
      ((names.zipIdx before.length).filter fun entry =>
        ((before ++ names).take entry.2).any fun earlier => lower earlier = lower entry.1).map duplicateIssue := by
  -- `before` are the names that the loop has passed, and it has seen their lower case forms.
  induction names generalizing seen before with
  | nil => rfl
  | cons name rest ih =>
    have hasSeenName : ∀ key, key ∈ lower name :: seen ↔ ∃ earlier ∈ before ++ [name], lower earlier = key := by
      intro key
      simp [hasSeen, or_comm, eq_comm]
    have later := ih hasSeenName
    rw [List.length_append, List.length_singleton, List.append_assoc, List.singleton_append] at later
    rw [TableSchema.duplicateIssues, later, List.zipIdx_cons, List.filter_cons]
    have isSeen : seen.contains (lower name) =
        ((before ++ name :: rest).take before.length).any fun earlier => lower earlier = lower name := by
      rw [List.take_left', Bool.eq_iff_iff]
      simp [hasSeen]
      rfl
    rw [isSeen]
    split <;> rfl

theorem duplicateIssues_of_plain {names : List String} (plain : ∀ name ∈ names, IsPlainIdentifier name) :
    TableSchema.duplicateIssues [] 0 names = (repeated names).map duplicateIssue := by
  have all := @duplicateIssues_eq [] [] names (by simp)
  rw [List.nil_append, List.length_nil] at all
  rw [all, repeated]
  congr 1
  apply List.filter_congr
  intro entry isEntry
  have inside : entry.1 ∈ names := List.fst_mem_of_mem_zipIdx isEntry
  rw [Bool.eq_iff_iff, List.any_eq_true, List.any_eq_true]
  refine exists_congr fun earlier => and_congr_right fun isEarlier => ?_
  rw [lower_of_plain (plain earlier (List.mem_of_mem_take isEarlier)), lower_of_plain (plain entry.1 inside)]

theorem lower_names {names : List String} (plain : ∀ name ∈ names, IsPlainIdentifier name) :
    names.map lower = names.map foldAscii :=
  List.map_congr_left fun name inside => lower_of_plain (plain name inside)

theorem repeated_eq_nil_iff {names : List String} (plain : ∀ name ∈ names, IsPlainIdentifier name) :
    (repeated names).map duplicateIssue = [] ↔ (names.map foldAscii).Nodup := by
  rw [← duplicateIssues_of_plain plain, duplicateIssues_eq_nil, lower_names plain]
  simp

/-! ## Schemas of given documents -/

theorem names_of_in {givens : List GivenColumn} {js : List Json} (each : List.Forall₂ GivenColumn.In givens js) :
    (js.map fun column =>
      match column.get? "name" with
      | some (.string name) => name
      | _ => "") = givens.map (·.name) := by
  induction each with
  | nil => rfl
  | cons first _ ih => rw [List.map_cons, List.map_cons, ih, first.name]

theorem documentNames_of_in {given : GivenSchema} {j : Json} (isIn : given.In j) :
    TableSchema.documentNames j = given.names := by
  obtain ⟨_, _, js, hasColumns, columns⟩ := isIn
  rw [TableSchema.documentNames, hasColumns]
  exact names_of_in columns

theorem ofJson_of_wellFormed {given : GivenSchema} {j : Json} (isIn : given.In j) (wellFormed : given.WellFormed) :
    TableSchema.ofJson j =
      if given.Distinct then .ok given.filled
      else .error (.invalidSchema given.keyspace given.table
        ((repeated given.names).map duplicateIssue)) := by
  have issues : TableSchema.documentIssues j = TableSchema.duplicateIssues [] 0 given.names := by
    simp [TableSchema.documentIssues, (schema_validWhen isIn []).valid wellFormed, Checked.issues,
      documentNames_of_in isIn]
  have shown : TableSchema.shownMember j "keyspace" = given.keyspace ∧ TableSchema.shownMember j "table" = given.table := by
    simp [TableSchema.shownMember, isIn.keyspace, isIn.table, Json.shown]
  have distinct : (repeated given.names).map duplicateIssue = [] ↔ given.Distinct :=
    repeated_eq_nil_iff wellFormed.names
  rw [TableSchema.ofJson, (schema_validWhen isIn []).valid wellFormed]
  simp only [issues, duplicateIssues_of_plain wellFormed.names, List.isEmpty_iff, distinct, shown]

theorem ofJson_of_not_wellFormed {given : GivenSchema} {j : Json} (isIn : given.In j)
    (notWellFormed : ¬ given.WellFormed) : ∃ issues, issues ≠ [] ∧
      TableSchema.ofJson j = .error (.invalidSchema given.keyspace given.table issues) := by
  obtain ⟨issues, some, isInvalid⟩ := (schema_validWhen isIn []).invalid notWellFormed
  refine ⟨TableSchema.documentIssues j, ?_, ?_⟩
  · simp only [TableSchema.documentIssues, isInvalid, Checked.issues]
    split <;> simp [some]
  · simp [TableSchema.ofJson, isInvalid, TableSchema.shownMember, isIn.keyspace, isIn.table, Json.shown]

/-- Exactly well formed documents with distinct names are accepted. -/
theorem accepted_iff {given : GivenSchema} {j : Json} (isIn : given.In j) {schema : TableSchema} :
    TableSchema.ofJson j = .ok schema ↔
      (given.WellFormed ∧ given.Distinct) ∧ schema = given.filled := by
  by_cases wellFormed : given.WellFormed
  · rw [ofJson_of_wellFormed isIn wellFormed]
    by_cases distinct : given.Distinct
    · simp [wellFormed, distinct, eq_comm]
    · simp [distinct]
  · obtain ⟨issues, _, refused⟩ := ofJson_of_not_wellFormed isIn wellFormed
    simp [refused, wellFormed]

/-! ## Names of accepted schemas -/

/-- The names are plain identifiers, and no two column names are equal but for
    letter case. -/
structure TableSchema.WellNamed (schema : TableSchema) : Prop where
  keyspace : isIdentifier schema.keyspace = true
  table : isIdentifier schema.table = true
  columns : ∀ column ∈ schema.columns, isIdentifier column.name = true
  distinct : (schema.columns.map fun column => lower column.name).Nodup

theorem exists_given_of_ofJson {j : Json} {schema : TableSchema} (accepted : TableSchema.ofJson j = .ok schema) :
    ∃ given : GivenSchema, given.In j := by
  cases checked : TableSchema.checkMembers [] j with
  | invalid issues => simp [TableSchema.ofJson, checked] at accepted
  | valid found => exact exists_given checked

theorem wellNamed_of_ofJson {j : Json} {schema : TableSchema} (accepted : TableSchema.ofJson j = .ok schema) :
    schema.WellNamed := by
  obtain ⟨given, isIn⟩ := exists_given_of_ofJson accepted
  obtain ⟨⟨wellFormed, distinct⟩, rfl⟩ := (accepted_iff isIn).mp accepted
  refine ⟨isIdentifier_iff.mpr wellFormed.keyspace, isIdentifier_iff.mpr wellFormed.table, ?_, ?_⟩
  · intro column inside
    obtain ⟨givenColumn, isGiven, rfl⟩ := List.mem_map.mp inside
    exact isIdentifier_iff.mpr (wellFormed.columns givenColumn isGiven).name
  · rw [GivenSchema.Distinct, ← lower_names wellFormed.names] at distinct
    simpa [GivenSchema.filled, GivenSchema.names, GivenColumn.filled, Function.comp_def] using distinct

/-! ## Columns by name -/

theorem find_of_distinct {columns : List Column} {column : Column}
    (distinct : (columns.map fun column => lower column.name).Nodup) (inside : column ∈ columns) :
    columns.find? (fun other => sameName other.name column.name) = some column := by
  induction columns with
  | nil => simp at inside
  | cons first rest ih =>
    rw [List.map_cons, List.nodup_cons] at distinct
    obtain ⟨new, distinct⟩ := distinct
    rcases List.mem_cons.mp inside with rfl | inRest
    · simp [sameName]
    · have other : ¬ lower first.name = lower column.name := by
        intro same
        exact new (List.mem_map.mpr ⟨column, inRest, same.symm⟩)
      simp [sameName, other]
      exact ih distinct inRest

/-- A column is found by its own name. -/
theorem TableSchema.WellNamed.find {schema : TableSchema} (names : schema.WellNamed) {column : Column}
    (inside : column ∈ schema.columns) : schema.findColumn? column.name = some column :=
  find_of_distinct names.distinct inside

theorem mem_keyColumns {schema : TableSchema} {column : Column} (inKey : column ∈ schema.keyColumns) :
    column ∈ schema.columns := by
  unfold TableSchema.keyColumns at inKey
  split at inKey
  · exact List.mem_of_mem_take inKey
  · rename_i marked
    simp only [TableSchema.columnsOf] at inKey
    rcases List.mem_append.mp inKey with partition | clustering
    · exact (List.mem_filter.mp partition).1
    · exact (List.mem_filter.mp clustering).1

theorem mem_otherColumns {schema : TableSchema} {column : Column} (isOther : column ∈ schema.otherColumns) :
    column ∈ schema.columns :=
  (List.mem_filter.mp isOther).1

end CqlTable
