import CqlTable.Proofs.Statement.Addressing
import CqlTable.Proofs.Statement.Faults
import CqlTable.Proofs.Statement.KeyClause

/-!
# Key order: one order of the key columns everywhere

The columns of an accepted schema are its key columns and the others
(`SplitsColumns`). The key clause of a new table, the condition of a deletion and
conditions on key parts name the key columns in the same order (`one_key_order`).
-/

namespace CqlTable

variable {dialect : Dialect} {schema : TableSchema}

/-! ## Key columns and the others -/

/-- Each column is in the key or among the others, and the key has its
    order. -/
structure SplitsColumns (schema : TableSchema) : Prop where
  all : (schema.keyColumns ++ schema.otherColumns).Perm schema.columns
  once : schema.columns.Nodup
  others : schema.otherColumns.Sublist schema.columns
  marked : (∃ column ∈ schema.columns, column.role ≠ .regular) → schema.keyColumns =
    (schema.columns.filter fun column => column.role = .partitionKey) ++
      schema.columns.filter fun column => column.role = .clusteringKey
  unmarked : (∀ column ∈ schema.columns, column.role = .regular) → schema.keyColumns = schema.columns.take 1

theorem TableSchema.WellNamed.name_inj (names : schema.WellNamed) {column other : Column}
    (inside : column ∈ schema.columns) (otherInside : other ∈ schema.columns) (same : column.name = other.name) :
    column = other :=
  List.inj_on_of_nodup_map names.distinct inside otherInside (congrArg Text.lower same)

theorem TableSchema.WellNamed.nodup (names : schema.WellNamed) : schema.columns.Nodup :=
  List.Nodup.of_map _ names.distinct

theorem mem_otherColumns_iff (names : schema.WellNamed) {column : Column} :
    column ∈ schema.otherColumns ↔ column ∈ schema.columns ∧ column ∉ schema.keyColumns := by
  simp only [TableSchema.otherColumns, List.mem_filter, List.contains_eq_mem, Bool.not_eq_true',
    decide_eq_false_iff_not, List.mem_map]
  refine and_congr_right fun inside => not_congr ⟨?_, fun inKey => ⟨column, inKey, rfl⟩⟩
  rintro ⟨other, inKey, same⟩
  rwa [← names.name_inj (mem_keyColumns inKey) inside same]

theorem nodup_keyColumns (names : schema.WellNamed) : schema.keyColumns.Nodup := by
  unfold TableSchema.keyColumns
  split
  · exact names.nodup.sublist (List.take_sublist ..)
  · refine List.Nodup.append (names.nodup.filter _) (names.nodup.filter _) ?_
    intro column partition clustering
    have first : column.role = .partitionKey := by simpa using (List.mem_filter.mp partition).2
    have second : column.role = .clusteringKey := by simpa using (List.mem_filter.mp clustering).2
    rw [first] at second
    cases second

theorem perm_columns (names : schema.WellNamed) :
    (schema.keyColumns ++ schema.otherColumns).Perm schema.columns := by
  have disjoint : schema.keyColumns.Disjoint schema.otherColumns := fun _ inKey isOther =>
    ((mem_otherColumns_iff names).mp isOther).2 inKey
  have nodup : (schema.keyColumns ++ schema.otherColumns).Nodup :=
    (nodup_keyColumns names).append (names.nodup.filter _) disjoint
  refine (List.perm_ext_iff_of_nodup nodup names.nodup).mpr fun column => ?_
  rw [List.mem_append, mem_otherColumns_iff names]
  constructor
  · rintro (inKey | ⟨inside, -⟩)
    · exact mem_keyColumns inKey
    · exact inside
  · intro inside
    by_cases inKey : column ∈ schema.keyColumns
    · exact .inl inKey
    · exact .inr ⟨inside, inKey⟩

theorem columnsOf_append_eq_nil_iff :
    schema.columnsOf .partitionKey ++ schema.columnsOf .clusteringKey = [] ↔
      ∀ column ∈ schema.columns, column.role = .regular := by
  simp only [TableSchema.columnsOf, List.append_eq_nil_iff, List.filter_eq_nil_iff, decide_eq_true_eq]
  constructor
  · rintro ⟨notPartition, notClustering⟩ column inside
    cases role : column.role with
    | regular => rfl
    | partitionKey => exact absurd role (notPartition column inside)
    | clusteringKey => exact absurd role (notClustering column inside)
  · intro regular
    refine ⟨fun column inside => ?_, fun column inside => ?_⟩
    · simp [regular column inside]
    · simp [regular column inside]

theorem keyColumns_of_unmarked (unmarked : ∀ column ∈ schema.columns, column.role = .regular) :
    schema.keyColumns = schema.columns.take 1 := by
  rw [TableSchema.keyColumns, columnsOf_append_eq_nil_iff.mpr unmarked]

theorem keyColumns_of_marked (marked : ¬ ∀ column ∈ schema.columns, column.role = .regular) :
    schema.keyColumns = schema.columnsOf .partitionKey ++ schema.columnsOf .clusteringKey := by
  unfold TableSchema.keyColumns
  split
  · rename_i none
    exact absurd (columnsOf_append_eq_nil_iff.mp none) marked
  · rfl

theorem splitsColumns (names : schema.WellNamed) : SplitsColumns schema where
  all := perm_columns names
  once := names.nodup
  others := List.filter_sublist
  marked := fun ⟨column, inside, isMarked⟩ => keyColumns_of_marked fun regular => isMarked (regular column inside)
  unmarked := keyColumns_of_unmarked

/-! ## The key of a table -/

/-- The key is made of its columns by role; these are its partition columns and
    what stands after them. -/
theorem keyColumns_parts (schema : TableSchema) :
    (schema.keyColumns.filter fun column => column.role = .partitionKey) = schema.columnsOf .partitionKey ∧
      schema.columnsOf .partitionKey ++ (schema.keyColumns.filter fun column => column.role ≠ .partitionKey) =
        schema.keyColumns := by
  by_cases regular : ∀ column ∈ schema.columns, column.role = .regular
  · have none : schema.columnsOf .partitionKey = [] :=
      (List.append_eq_nil_iff.mp (columnsOf_append_eq_nil_iff.mpr regular)).1
    have inKey : ∀ column ∈ schema.keyColumns, column.role = .regular := fun column inKey =>
      regular column (mem_keyColumns inKey)
    rw [none, List.filter_eq_nil_iff, List.nil_append, List.filter_eq_self]
    exact ⟨fun column inside => by simp [inKey column inside], fun column inside => by simp [inKey column inside]⟩
  · have partition : ∀ column ∈ schema.columnsOf .partitionKey, column.role = .partitionKey := fun column inside => by
      simpa using (List.mem_filter.mp inside).2
    have clustering : ∀ column ∈ schema.columnsOf .clusteringKey, column.role = .clusteringKey :=
      fun column inside => by simpa using (List.mem_filter.mp inside).2
    rw [keyColumns_of_marked regular, List.filter_append, List.filter_append,
      List.filter_eq_self.mpr fun column inside => by simp [partition column inside],
      List.filter_eq_nil_iff.mpr fun column inside => by simp [clustering column inside],
      List.filter_eq_nil_iff.mpr fun column inside => by simp [partition column inside],
      List.filter_eq_self.mpr fun column inside => by simp [clustering column inside]]
    exact ⟨List.append_nil _, by rw [List.nil_append]⟩

theorem primaryKey_eq_none (empty : schema.columns = []) : Dialect.primaryKey schema = none := by
  rw [Dialect.primaryKey, keyColumns_eq_nil_iff.mpr empty]
  rfl

theorem primaryKey_eq_some (some : schema.columns ≠ []) : ∃ key, Dialect.primaryKey schema = .some key ∧
    key.partition = (schema.columnsOf .partitionKey).map (·.name) ∧
    key.partition ++ key.clustering = schema.keyColumns.map (·.name) := by
  obtain ⟨partition, whole⟩ := keyColumns_parts schema
  have nonempty : ¬ schema.keyColumns.isEmpty = true := by
    rwa [List.isEmpty_iff, keyColumns_eq_nil_iff]
  rw [Dialect.primaryKey, if_neg nonempty]
  refine ⟨_, rfl, ?_, ?_⟩
  · rw [partition]
  · rw [partition, ← List.map_append, whole]

/-! ## Creation of a table -/

theorem definitions_eq_ok {columns : List Column} {definitions : List (String × String)}
    (built : dialect.definitions columns = .ok definitions) :
    definitions = columns.map fun column => (column.name, column.type.cqlName) := by
  induction columns generalizing definitions with
  | nil =>
    cases built
    rfl
  | cons column rest ih =>
    unfold Dialect.definitions Dialect.definition at built
    by_cases refused : dialect.rejectUnsupported = true ∧ ¬ column.type.isSupported = true
    · simp [refused] at built
    · rw [if_neg refused] at built
      cases more : dialect.definitions rest with
      | error fault => simp [more] at built
      | ok others =>
        simp only [more] at built
        cases built
        rw [List.map_cons, ih more]

theorem createTable_eq_ok {statement : Statement} (built : dialect.createTable schema = .ok statement) :
    statement = .createTable schema.qualifiedName
      (schema.columns.map fun column => (column.name, column.type.cqlName)) (Dialect.primaryKey schema) := by
  obtain ⟨definitions, defined, rfl⟩ := map_eq_ok.mp built
  rw [definitions_eq_ok defined]

theorem exists_createTable_iff : (∃ statement, dialect.createTable schema = .ok statement) ↔
    (dialect.rejectUnsupported = true → ∀ column ∈ schema.columns, column.type.isSupported = true) := by
  cases built : dialect.createTable schema with
  | ok statement =>
    refine iff_of_true ⟨statement, rfl⟩ fun reject => ?_
    cases found : schema.columns.find? fun column => !column.type.isSupported with
    | none => simpa using List.find?_eq_none.mp found
    | some column =>
      have refused := (dialect.createTable_eq_error_iff schema).mpr ⟨reject, column, found, rfl⟩
      rw [built] at refused
      cases refused
  | error fault =>
    obtain ⟨reject, column, found, -⟩ := (dialect.createTable_eq_error_iff schema).mp built
    have unsupported : column.type.isSupported = false := by simpa using List.find?_some found
    refine iff_of_false (by simp) fun all => ?_
    rw [all reject column (List.mem_of_find?_eq_some found)] at unsupported
    cases unsupported

theorem cqlName_mem_kinds (type : LogicalType) : type.cqlName ∈ LogicalType.kinds := by
  cases type with
  | integer kind => cases kind <;> decide
  | floating kind => cases kind <;> decide
  | _ => simp [LogicalType.cqlName, LogicalType.kind, LogicalType.kinds]

/-- The type of a column is a word, and none that opens a clause. -/
theorem cqlName_word (type : LogicalType) :
    IsWord type.cqlName.toList ∧ type.cqlName ≠ "KEY" ∧ type.cqlName ≠ "PRIMARY" := by
  have each : ∀ name ∈ LogicalType.kinds, IsWord name.toList ∧ name ≠ "KEY" ∧ name ≠ "PRIMARY" := by decide
  exact each _ (cqlName_mem_kinds type)

/-- The key clause of a new table lists its key columns. -/
theorem keyClause_of_schema (names : schema.WellNamed) {statement : Statement}
    (built : dialect.createTable schema = .ok statement) :
    (keyClause statement.text = none ↔ schema.columns = []) ∧
      ∀ inside, keyClause statement.text = some inside →
        ListsNames inside (schema.keyColumns.map (·.name)) ((schema.columnsOf .partitionKey).map (·.name)) := by
  have table := isWord_qualifiedName names
  have plain : ∀ definition ∈ schema.columns.map fun column => (column.name, column.type.cqlName),
      IsWord definition.1.toList ∧ IsWord definition.2.toList :=
    List.forall_mem_map.mpr fun column inside =>
      ⟨isWord_identifier (names.columns column inside), (cqlName_word column.type).1⟩
  have types : ∀ definition ∈ schema.columns.map fun column => (column.name, column.type.cqlName),
      definition.2 ≠ "KEY" ∧ definition.2 ≠ "PRIMARY" :=
    List.forall_mem_map.mpr fun column _ => (cqlName_word column.type).2
  rw [createTable_eq_ok built]
  by_cases empty : schema.columns = []
  · have scanned : scan (Statement.createTable schema.qualifiedName [] none).text =
        createTableTokens schema.qualifiedName [] none := scan_createTable table (by simp) (by simp)
    have none := keyClause_createTable_nil scanned
    rw [empty, primaryKey_eq_none empty, List.map_nil, none]
    exact ⟨iff_of_true rfl rfl, nofun⟩
  · obtain ⟨key, isKey, partition, whole⟩ := primaryKey_eq_some empty
    have words : ∀ name ∈ key.partition ++ key.clustering, IsWord name.toList := by
      rw [whole]
      exact List.forall_mem_map.mpr fun column inKey => isWord_identifier (names.columns column (mem_keyColumns inKey))
    have keyWords : ∀ k ∈ some key, ∀ name ∈ k.partition ++ k.clustering, IsWord name.toList :=
      fun _ same => Option.some.inj same ▸ words
    have scanned := scan_createTable table plain keyWords
    rw [isKey, keyClause_createTable types scanned, ← whole, ← partition]
    refine ⟨iff_of_false (by simp) empty, ?_⟩
    rintro _ ⟨⟩
    exact key.inside_lists.1

/-! ## Conditions -/

theorem leadingTerms_prefix (map : Option Double) (position : Nat) (columns : List Column) (parts : List Value) :
    (leadingTerms map position columns parts).map (·.1) <+: columns.map (·.name) := by
  induction columns generalizing position parts with
  | nil => simp [leadingTerms]
  | cons column rest ih =>
    cases parts with
    | nil => simp [leadingTerms]
    | cons part parts =>
      rw [leadingTerms]
      split
      · exact List.prefix_cons_inj _ |>.mpr (ih (position + 1) parts)
      · exact List.nil_prefix

/-- All parts of a key, given one for each key column, stand in its order. -/
theorem leadingTerms_whole {columns : List Column} {parts : List Value} (same : parts.length = columns.length)
    (given : .missing ∉ parts) (position : Nat) :
    (leadingTerms none position columns parts).map (·.1) = columns.map (·.name) := by
  induction columns generalizing position parts with
  | nil => simp [leadingTerms]
  | cons column rest ih =>
    cases parts with
    | nil => simp at same
    | cons part parts =>
      simp only [List.mem_cons, not_or] at given
      have others := ih (by simpa using same) given.2 (position + 1)
      rw [leadingTerms, if_pos ⟨rfl, Ne.symm given.1⟩, List.map_cons, others, List.map_cons]

theorem delete_names (names : schema.WellNamed) {row : Row} {statement : Statement}
    (built : dialect.delete schema row = .ok statement) :
    ∃ cells, cells.map (·.1) = schema.keyColumns.map (·.name) ∧
      scan statement.text = deleteTokens schema.qualifiedName cells := by
  obtain ⟨key, rfl, encodes⟩ := Dialect.delete_eq_ok names built
  have scanned := scan_delete (isWord_qualifiedName names) (isPlain_terms names (fun _ => mem_keyColumns) encodes)
  refine ⟨_, ?_, scanned⟩
  rw [List.map_map]
  exact List.forall₂_eq_eq_eq ▸ List.forall₂_map_left_iff.mpr
    (List.forall₂_map_right_iff.mpr (encodes.flip.imp fun _ _ term => term.1))

/-- The columns of an accepted schema are its key columns and the others. The
    key clause of the text that creates its table lists the key columns in order,
    with parentheses around the partition columns where there are several, and
    is left out only where there are no columns; the condition of a deletion and
    conditions on key parts have the same order. -/
theorem one_key_order {document : Json} {schema : TableSchema}
    (accepted : TableSchema.ofJson document = .ok schema) (dialect : Dialect) :
    SplitsColumns schema ∧
    ((∃ statement, dialect.createTable schema = .ok statement) ↔
      (dialect.rejectUnsupported = true → ∀ column ∈ schema.columns, column.type.isSupported = true)) ∧
    (∀ statement, dialect.createTable schema = .ok statement →
      (keyClause statement.text = none ↔ schema.columns = []) ∧
      ∀ inside, keyClause statement.text = some inside →
        ListsNames inside (schema.keyColumns.map (·.name)) ((schema.columnsOf .partitionKey).map (·.name))) ∧
    (∀ row statement, dialect.delete schema row = .ok statement →
      ∃ cells, cells.map (·.1) = schema.keyColumns.map (·.name) ∧
        scan statement.text = deleteTokens schema.qualifiedName cells) ∧
    (∀ parts map, (KeyPredicate.ofParts schema parts map).map (·.1) <+: schema.keyColumns.map (·.name)) ∧
    ∀ parts, parts.length = schema.keyColumns.length → .missing ∉ parts →
      (KeyPredicate.ofParts schema parts none).map (·.1) = schema.keyColumns.map (·.name) := by
  have names := wellNamed_of_ofJson accepted
  exact ⟨splitsColumns names, exists_createTable_iff, fun _ => keyClause_of_schema names, fun _ _ => delete_names names,
    fun parts map => leadingTerms_prefix map 0 _ parts, fun _ same given => leadingTerms_whole same given 0⟩

/-- The columns come in another order than the key: two of its partition, with a
    column of neither part between, and one clustering column before them. -/
theorem key_order_of_orders :
    let schema : TableSchema := ⟨"shop", "orders", [⟨"day", .date, true, .clusteringKey⟩,
      ⟨"store", .textual .text, true, .partitionKey⟩, ⟨"KEY", .textual .text, true, .regular⟩,
      ⟨"region", .textual .text, true, .partitionKey⟩]⟩
    TableSchema.ofJson (.object [("keyspace", .string "shop"), ("table", .string "orders"),
        ("columns", .array [
          .object [("name", .string "day"), ("type", .object [("kind", .string "date")]),
            ("role", .string "clustering_key")],
          .object [("name", .string "store"), ("type", .object [("kind", .string "text")]),
            ("role", .string "partition_key")],
          .object [("name", .string "KEY"), ("type", .object [("kind", .string "text")])],
          .object [("name", .string "region"), ("type", .object [("kind", .string "text")]),
            ("role", .string "partition_key")]])]) = .ok schema ∧
      ∃ statement inside, (Dialect.mk .utc true).createTable schema = .ok statement ∧
        keyClause statement.text = some inside ∧ ListsNames inside ["store", "region", "day"] ["store", "region"] := by
  intro schema
  have accepted : TableSchema.ofJson (.object [("keyspace", .string "shop"), ("table", .string "orders"),
      ("columns", .array [
        .object [("name", .string "day"), ("type", .object [("kind", .string "date")]),
          ("role", .string "clustering_key")],
        .object [("name", .string "store"), ("type", .object [("kind", .string "text")]),
          ("role", .string "partition_key")],
        .object [("name", .string "KEY"), ("type", .object [("kind", .string "text")])],
        .object [("name", .string "region"), ("type", .object [("kind", .string "text")]),
          ("role", .string "partition_key")]])]) = .ok schema := by
    rfl
  obtain ⟨-, builds, clauses, -⟩ := one_key_order accepted (Dialect.mk .utc true)
  obtain ⟨statement, built⟩ := builds.mpr fun _ => by decide
  obtain ⟨absent, lists⟩ := clauses statement built
  cases clause : keyClause statement.text with
  | none => exact absurd (absent.mp clause) (by simp [schema])
  | some inside => exact ⟨accepted, statement, inside, built, clause, lists inside clause⟩

end CqlTable
