import CqlTable.Proofs.Value.Rows

/-!
# Layouts of results: rows are read by name

Each column of a schema gets its value from the first name of a result that
equals its own but for letter case, and from nothing else (`Gets`). So it does
not matter how the columns of a result are ordered, how their names are spelled
and which other columns there are (`materialize_of_rearranged`).
-/

namespace CqlTable

variable {schema : TableSchema} {names cells : List String}

/-! ## What a column gets -/

/-- The position is that of the first name which equals the name of the column
    but for letter case. -/
def FirstNamed (names : List String) (column : Column) (i : Nat) : Prop :=
  (∃ name, names[i]? = some name ∧ Text.lower name = Text.lower column.name) ∧
    ∀ j < i, ∀ name, names[j]? = some name → Text.lower name ≠ Text.lower column.name

/-- The value of a column in a row of a result, and the error of its cell if
    there is one. -/
inductive Gets (names cells : List String) (column : Column) : Option Scalar → Option ConversionError → Prop
  | unnamed (absent : ∀ name ∈ names, Text.lower name ≠ Text.lower column.name) : Gets names cells column none none
  | short {i} (first : FirstNamed names column i) (past : cells.length ≤ i) : Gets names cells column none none
  | decoded {i cell value} (first : FirstNamed names column i) (found : cells[i]? = some cell)
      (read : decode column.type cell = .ok value) : Gets names cells column value none
  | failed {i cell error} (first : FirstNamed names column i) (found : cells[i]? = some cell)
      (read : decode column.type cell = .error error) :
      Gets names cells column none (some (error.forColumn column.name))

theorem firstNamed_of_findIdx {column : Column} {i : Nat}
    (found : (names.findIdx? fun name => Text.sameName name column.name) = some i) : FirstNamed names column i := by
  obtain ⟨inside, here, before⟩ := List.findIdx?_eq_some_iff_getElem.mp found
  refine ⟨⟨names[i], List.getElem?_eq_getElem inside, by simpa [Text.sameName] using here⟩, ?_⟩
  intro j earlier name isName
  obtain ⟨_, rfl⟩ := List.getElem?_eq_some_iff.mp isName
  simpa [Text.sameName] using before j earlier

theorem gets_valueOf (names cells : List String) (column : Column) :
    Gets names cells column (valueOf names cells column) (failureOf names cells column) := by
  cases found : names.findIdx? fun name => Text.sameName name column.name with
  | none =>
    rw [valueOf, failureOf, cellOf, found]
    exact .unnamed fun name inside => by simpa [Text.sameName] using List.findIdx?_eq_none_iff.mp found name inside
  | some i =>
    have first := firstNamed_of_findIdx found
    rw [valueOf, failureOf, cellOf, found, Option.bind_some]
    cases cellIs : cells[i]? with
    | none => exact .short first (List.getElem?_eq_none_iff.mp cellIs)
    | some cell =>
      rw [Option.map_some]
      cases read : decode column.type cell with
      | ok value => exact .decoded first cellIs read
      | error error => exact .failed first cellIs read

/-! ## Results that are laid out in another way -/

/-- From one list of names with their cells comes another: in another order,
    with names in other ASCII letter case, and with columns that the schema does
    not have. -/
inductive Rearranged (schema : TableSchema) : List (String × String) → List (String × String) → Prop
  | permuted {entries other} (reordered : entries.Perm other) : Rearranged schema entries other
  | respelled {entries other} (same : entries.map (fun entry => (Text.foldAscii entry.1, entry.2)) =
      other.map fun entry => (Text.foldAscii entry.1, entry.2)) : Rearranged schema entries other
  | added (before after : List (String × String)) {name : String} (cell : String)
      (unknown : schema.findColumn? name = none) :
      Rearranged schema (before ++ after) (before ++ (name, cell) :: after)
  | trans {first second third} (left : Rearranged schema first second) (right : Rearranged schema second third) :
      Rearranged schema first third

/-- Whether a lower case name is that of a column of the schema. -/
def isKnown (schema : TableSchema) (key : String) : Bool :=
  schema.columns.any fun column => Text.lower column.name == key

/-- The cells of the columns that the schema has, by their lower case names. -/
def knownCells (schema : TableSchema) (entries : List (String × String)) : Named String :=
  (entries.map fun entry => (Text.lower entry.1, entry.2)).filter fun entry => isKnown schema entry.1

theorem isKnown_eq_false {name : String} (unknown : schema.findColumn? name = none) :
    isKnown schema (Text.lower name) = false := by
  simpa [isKnown, TableSchema.findColumn?, Text.sameName] using unknown

/-- However a result is laid out, the schema has the same cells in it. -/
theorem knownCells_of_rearranged {entries other : List (String × String)}
    (rearranged : Rearranged schema entries other) : (knownCells schema entries).Perm (knownCells schema other) := by
  induction rearranged with
  | permuted reordered => exact (reordered.map _).filter _
  | @respelled entries other same =>
    have lower_again (entries : List (String × String)) :
        ((entries.map fun entry => (Text.foldAscii entry.1, entry.2)).map fun entry => (Text.lower entry.1, entry.2)) =
          entries.map fun entry => (Text.lower entry.1, entry.2) := by
      rw [List.map_map]
      exact List.map_congr_left fun entry _ => by simp [Text.lower_foldAscii]
    rw [knownCells, knownCells, ← lower_again entries, ← lower_again other, same]
  | @added before after name cell unknown =>
    have left : ¬ isKnown schema (Text.lower name) = true := by simp [isKnown_eq_false unknown]
    have same : knownCells schema (before ++ (name, cell) :: after) = knownCells schema (before ++ after) := by
      rw [knownCells, knownCells, List.map_append, List.map_append, List.map_cons, List.filter_append,
        List.filter_append, List.filter_cons_of_neg (by exact left)]
    rw [same]
  | trans _ _ first second => exact first.trans second

/-! ## Cells by name -/

theorem get_filter {α : Type} {p : String × α → Bool} {key : String} (kept : ∀ a, p (key, a) = true)
    (entries : Named α) : Named.get? key (entries.filter p) = Named.get? key entries := by
  induction entries with
  | nil => rfl
  | cons entry rest ih =>
    obtain ⟨name, a⟩ := entry
    by_cases same : name = key
    · subst same
      simp [kept, Named.get?]
    · rw [List.filter_cons]
      split
      · simp [Named.get?, same, ih]
      · simp [Named.get?, same, ih]

/-- Where every name has a cell, a cell is found by name. -/
theorem get_zip (key : String) (enough : names.length ≤ cells.length) :
    Named.get? key ((names.zip cells).map fun entry => (Text.lower entry.1, entry.2)) =
      (names.findIdx? fun name => Text.lower name == key).bind (cells[·]?) := by
  induction names generalizing cells with
  | nil => rfl
  | cons name rest ih =>
    cases cells with
    | nil => simp at enough
    | cons cell others =>
      have later := @ih others (by simpa using enough)
      rw [List.zip_cons_cons, List.map_cons, Named.get?, later, List.findIdx?_cons]
      by_cases same : Text.lower name = key
      · simp [same]
      · simp only [same, if_false, beq_iff_eq, Option.bind_map]
        rfl

theorem cellOf_eq_get (enough : names.length ≤ cells.length) {column : Column} (inside : column ∈ schema.columns) :
    cellOf names cells column = Named.get? (Text.lower column.name) (knownCells schema (names.zip cells)) := by
  have known : isKnown schema (Text.lower column.name) = true :=
    List.any_eq_true.mpr ⟨column, inside, by simp⟩
  rw [knownCells, get_filter fun _ => known, get_zip _ enough]
  rfl

theorem distinct_knownCells (enough : names.length ≤ cells.length) (distinct : (names.map Text.lower).Nodup) :
    ((knownCells schema (names.zip cells)).map (·.1)).Nodup := by
  have all : ((names.zip cells).map fun entry => (Text.lower entry.1, entry.2)).map (·.1) = names.map Text.lower := by
    conv_rhs => rw [← List.map_fst_zip enough]
    rw [List.map_map, List.map_map]
    rfl
  exact (all ▸ distinct).sublist (List.filter_sublist.map _)

/-- The layout of a result plays no part where its names are distinct and each
    has a cell. -/
theorem materialize_of_rearranged {names' cells' : List String} (enough : names.length ≤ cells.length)
    (enough' : names'.length ≤ cells'.length) (distinct : (names.map Text.lower).Nodup)
    (rearranged : Rearranged schema (names.zip cells) (names'.zip cells')) :
    materialize names' cells' schema = materialize names cells schema := by
  have same : ∀ column ∈ schema.columns, cellOf names' cells' column = cellOf names cells column := by
    intro column inside
    rw [cellOf_eq_get enough inside, cellOf_eq_get enough' inside]
    exact (get_of_perm (distinct_knownCells enough distinct) (knownCells_of_rearranged rearranged)).symm
  rw [materialize_eq, materialize_eq, rowOf, rowOf, failuresOf, failuresOf]
  congr 1
  · refine congrArg DecodedRow.ofEntries (List.map_congr_left fun column inside => ?_)
    rw [valueOf, valueOf, same column inside]
  · refine List.filterMap_congr fun column inside => ?_
    rw [failureOf, failureOf, same column inside]

/-! ## Rows by name -/

theorem rowOf_eq_filter (schema : TableSchema) (names cells : List String) :
    rowOf schema names cells = (schema.columns.filter fun column => column.name ≠ parentName).map
      fun column => (column.name, valueOf names cells column) := by
  rw [rowOf, DecodedRow.ofEntries, List.filter_map]
  rfl

/-- The row has all columns of the schema unless one has the name of its
    parent. -/
theorem rowOf_names_iff (schema : TableSchema) (names cells : List String) :
    (rowOf schema names cells).map (·.1) = schema.columns.map (·.name) ↔
      ∀ column ∈ schema.columns, column.name ≠ parentName := by
  have all : (rowOf schema names cells).map (·.1) =
      (schema.columns.filter fun column => column.name ≠ parentName).map (·.name) := by
    rw [rowOf_eq_filter, List.map_map]
    rfl
  rw [all]
  constructor
  · intro same
    have length := congrArg List.length same
    rw [List.length_map, List.length_map] at length
    simpa using List.length_filter_eq_length_iff.mp length
  · intro kept
    rw [List.filter_eq_self.mpr (by simpa using kept)]

/-- Each column of a schema has in a row the value that it gets by its name, in
    schema order, and the errors are those of the columns that get one, in
    schema order; only a column with the name of the parent of a row is left out
    of the row. Where names are distinct and have cells, rows and errors are the
    same for every layout of a result. -/
theorem materialized_by_name (schema : TableSchema) :
    (∀ names cells, ∃ (value : Column → Option Scalar) (failure : Column → Option ConversionError),
      (∀ column, Gets names cells column (value column) (failure column)) ∧
      materialize names cells schema =
        ⟨(schema.columns.filter fun column => column.name ≠ parentName).map fun column => (column.name, value column),
          schema.columns.filterMap failure⟩) ∧
    (∀ names cells, (materialize names cells schema).row.map (·.1) = schema.columns.map (·.name) ↔
      ∀ column ∈ schema.columns, column.name ≠ parentName) ∧
    ∀ names cells names' cells', names.length ≤ cells.length → names'.length ≤ cells'.length →
      (names.map Text.lower).Nodup → Rearranged schema (names.zip cells) (names'.zip cells') →
      materialize names' cells' schema = materialize names cells schema := by
  refine ⟨fun names cells => ⟨_, _, gets_valueOf names cells, ?_⟩, fun names cells => ?_,
    fun names cells names' cells' => materialize_of_rearranged⟩
  · rw [materialize_eq, rowOf_eq_filter, failuresOf]
  · rw [materialize_eq]
    exact rowOf_names_iff schema names cells

/-- The columns of a result come the other way around, one in capitals, and
    there is a column more; one cell does not decode. -/
theorem note_rearranged :
    let schema : TableSchema := ⟨"app", "notes", [⟨"id", .integer .int, true, .regular⟩,
      ⟨"note", .textual .text, true, .regular⟩]⟩
    materialize ["rank", "NOTE", "id"] ["1", "late", "seven"] schema =
        materialize ["id", "note"] ["seven", "late"] schema ∧
      (materialize ["id", "note"] ["seven", "late"] schema).row.map (·.1) = ["id", "note"] := by
  intro schema
  obtain ⟨-, names, layouts⟩ := materialized_by_name schema
  have reordered : Rearranged schema [("id", "seven"), ("note", "late")] [("note", "late"), ("id", "seven")] :=
    .permuted (.swap ..)
  have respelled : Rearranged schema [("note", "late"), ("id", "seven")] [("NOTE", "late"), ("id", "seven")] :=
    .respelled (by decide)
  have added : Rearranged schema [("NOTE", "late"), ("id", "seven")]
      [("rank", "1"), ("NOTE", "late"), ("id", "seven")] := .added [] _ "1" (by decide)
  exact ⟨layouts _ _ _ _ (by decide) (by decide) (by decide) (reordered.trans (respelled.trans added)),
    (names _ _).mpr (by decide)⟩

/-- A column with the name of the parent of a row is not in the row, though its
    cell decodes. -/
theorem parent_column_lost :
    let schema : TableSchema := ⟨"app", "nodes", [⟨"__proto__", .textual .text, true, .regular⟩]⟩
    TableSchema.ofJson (.object [("keyspace", .string "app"), ("table", .string "nodes"),
        ("columns", .array [.object [("name", .string "__proto__"), ("type", .object [("kind", .string "text")])]])]) =
      .ok schema ∧
    materialize ["__proto__"] ["root"] schema = ⟨[], []⟩ ∧
    ¬ ∀ (document : Json) (schema : TableSchema) (names cells : List String),
      TableSchema.ofJson document = .ok schema →
        (materialize names cells schema).row.map (·.1) = schema.columns.map (·.name) := by
  intro schema
  have accepted : TableSchema.ofJson (.object [("keyspace", .string "app"), ("table", .string "nodes"),
      ("columns", .array [.object [("name", .string "__proto__"), ("type", .object [("kind", .string "text")])]])]) =
        .ok schema := by
    rfl
  have lost : materialize ["__proto__"] ["root"] schema = ⟨[], []⟩ := by decide +kernel
  refine ⟨accepted, lost, fun complete => ?_⟩
  have names := complete _ schema ["__proto__"] ["root"] accepted
  rw [lost] at names
  cases names

end CqlTable
