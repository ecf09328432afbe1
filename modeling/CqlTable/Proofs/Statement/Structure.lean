import CqlTable.Proofs.Conversion.Literals
import CqlTable.Proofs.Statement.Terms

/-!
# Statement structure: values cannot change it

A statement on rows is read as the fixed words of its kind, the names of the
schema and one literal for each column that it lists.
-/

namespace CqlTable

/-! ## Statements as tokens -/

/-- A name, an equals sign and a literal. -/
def equation (cell : String × Token) : List Token := [.word cell.1, .mark '=', cell.2]

/-- The tokens of an insertion: the names of columns, and a literal for each. -/
def insertTokens (table : String) (cells : List (String × Token)) : List Token :=
  [.word "INSERT", .word "INTO", .word table, .mark '('] ++
    [Token.mark ','].intercalate (cells.map fun cell => [.word cell.1]) ++
    [.mark ')', .word "VALUES", .mark '('] ++ [Token.mark ','].intercalate (cells.map fun cell => [cell.2]) ++
    [.mark ')']

/-- The tokens of an update: what is set, and the key. -/
def updateTokens (table : String) (assigned key : List (String × Token)) : List Token :=
  [.word "UPDATE", .word table, .word "SET"] ++ [Token.mark ','].intercalate (assigned.map equation) ++
    [.word "WHERE"] ++ [Token.word "AND"].intercalate (key.map equation)

/-- The tokens of a removal: the key. -/
def deleteTokens (table : String) (key : List (String × Token)) : List Token :=
  [.word "DELETE", .word "FROM", .word table, .word "WHERE"] ++ [Token.word "AND"].intercalate (key.map equation)

/-- A term with its literal as a token. -/
def Term.cell (term : Term) : String × Token := (term.1, term.2.token)

/-- The name is a word, and so is the literal unless it is a string. -/
def Term.IsPlain (term : Term) : Prop := IsWord term.1.toList ∧ term.2.IsPlain

theorem separator_comma : Separator ", " [.mark ','] := ⟨by decide, by decide, fun _ => rfl⟩

theorem separator_and : Separator " AND " [.word "AND"] := ⟨by decide, by decide, fun _ => rfl⟩

theorem separator_equals : Separator " = " [.mark '='] := ⟨by decide, by decide, fun _ => rfl⟩

theorem separator_where : Separator " WHERE " [.word "WHERE"] := ⟨by decide, by decide, fun _ => rfl⟩

theorem reads_term {term : Term} (plain : term.IsPlain) : Reads (termText term) (equation term.cell) :=
  ((reads_word plain.1).append_separator separator_equals).append_reads (reads_literal plain.2)

theorem reads_terms {mark : String} {between : List Token} (separator : Separator mark between) {terms : List Term}
    (plain : ∀ term ∈ terms, term.IsPlain) :
    Reads (Text.join mark (terms.map termText)) (between.intercalate (terms.map fun term => equation term.cell)) :=
  reads_join separator terms fun term inside => reads_term (plain term inside)

theorem scan_insert {table : String} (word : IsWord table.toList) {terms : List Term}
    (plain : ∀ term ∈ terms, term.IsPlain) :
    scan (Statement.insert table terms).text = insertTokens table (terms.map Term.cell) := by
  have opening : ReadsClosed "INSERT INTO " [.word "INSERT", .word "INTO"] := fun _ => rfl
  have left : Separator " (" [.mark '('] := ⟨by decide, by decide, fun _ => rfl⟩
  have values : Separator ") VALUES (" [.mark ')', .word "VALUES", .mark '('] := ⟨by decide, by decide, fun _ => rfl⟩
  have right : Separator ")" [.mark ')'] := ⟨by decide, by decide, fun _ => rfl⟩
  have names : Reads (Text.join ", " (terms.map (·.1)))
      ([Token.mark ','].intercalate (terms.map fun term => [.word term.1])) :=
    reads_join separator_comma terms fun term inside => reads_word (plain term inside).1
  have literals : Reads (Text.join ", " (terms.map fun term => term.2.text))
      ([Token.mark ','].intercalate (terms.map fun term => [term.2.token])) :=
    reads_join separator_comma terms fun term inside => reads_literal (plain term inside).2
  have columns := ((opening.append_reads (reads_word word)).append_separator left).append_reads names
  have whole := ((columns.append_separator values).append_reads literals).append_separator right
  rw [insertTokens, List.map_map, List.map_map]
  exact scan_of_reads fun rest _ => whole rest

theorem scan_update {table : String} (word : IsWord table.toList) {assigned key : List Term}
    (plainAssigned : ∀ term ∈ assigned, term.IsPlain) (plainKey : ∀ term ∈ key, term.IsPlain) :
    scan (Statement.update table assigned key).text =
      updateTokens table (assigned.map Term.cell) (key.map Term.cell) := by
  have opening : ReadsClosed "UPDATE " [.word "UPDATE"] := fun _ => rfl
  have set : Separator " SET " [.word "SET"] := ⟨by decide, by decide, fun _ => rfl⟩
  have assignments := ((opening.append_reads (reads_word word)).append_separator set).append_reads
    (reads_terms separator_comma plainAssigned)
  have whole := (assignments.append_separator separator_where).append_reads (reads_terms separator_and plainKey)
  rw [updateTokens, List.map_map, List.map_map]
  exact scan_of_reads whole

theorem scan_delete {table : String} (word : IsWord table.toList) {key : List Term}
    (plain : ∀ term ∈ key, term.IsPlain) :
    scan (Statement.delete table key).text = deleteTokens table (key.map Term.cell) := by
  have opening : ReadsClosed "DELETE FROM " [.word "DELETE", .word "FROM"] := fun _ => rfl
  have whole := ((opening.append_reads (reads_word word)).append_separator separator_where).append_reads
    (reads_terms separator_and plain)
  rw [deleteTokens, List.map_map]
  exact scan_of_reads whole

/-! ## Names of schemas -/

theorem isWord_identifier {name : String} (identifier : isIdentifier name = true) : IsWord name.toList := by
  obtain ⟨nonempty, chars⟩ := chars_of_isIdentifier identifier
  refine ⟨nonempty, fun c inside => ?_⟩
  simp [isTokenChar, chars c inside]

theorem isWord_qualifiedName {schema : TableSchema} (names : schema.WellNamed) :
    IsWord schema.qualifiedName.toList := by
  rw [TableSchema.qualifiedName, String.toList_append, String.toList_append]
  exact ((isWord_identifier names.keyspace).append (by simp [isTokenChar])).append (isWord_identifier names.table).2

/-! ## Values in their places -/

/-- The type stores texts as they are. -/
def LogicalType.IsText : LogicalType → Prop
  | textual _ | other _ => True
  | _ => False

/-- The cell has the name of the column and one literal, exactly what its value
    is encoded as; that of a text in a column of texts is a string that
    undoubles to it. -/
def StandsFor (zone : Calendar.Zone) (row : Row) (column : Column) (cell : String × Token) : Prop :=
  cell.1 = column.name ∧ cell.2.IsLiteral ∧
    (∃ literal, encode zone column.type (row.value column.name) = .ok literal ∧ cell.2.text = literal.text) ∧
    (column.type.IsText → ∀ s, row.value column.name = .scalar (.text s) →
      ∃ inside, cell.2 = .quoted inside ∧ undouble inside = s)

theorem standsFor_cell {zone : Calendar.Zone} {row : Row} {column : Column} {term : Term}
    (encodes : Encodes zone row column term) : StandsFor zone row column term.cell := by
  obtain ⟨name, encoded⟩ := encodes
  refine ⟨name, token_isLiteral _, ⟨term.2, encoded, token_text _⟩, fun isText s value => ?_⟩
  obtain ⟨columnName, literal⟩ := term
  obtain ⟨_, type, _, _⟩ := column
  rw [value] at encoded
  cases type with
  | textual kind =>
    cases encoded
    exact ⟨escape s, rfl, undouble_escape s⟩
  | other host =>
    cases encoded
    exact ⟨escape s, rfl, undouble_escape s⟩
  | _ => exact False.elim isText

theorem standsFor_cells {zone : Calendar.Zone} {row : Row} {columns : List Column} {terms : List Term}
    (encodes : List.Forall₂ (Encodes zone row) columns terms) :
    List.Forall₂ (StandsFor zone row) columns (terms.map Term.cell) :=
  List.forall₂_map_right_iff.mpr (encodes.imp fun _ _ => standsFor_cell)

theorem isPlain_terms {schema : TableSchema} (names : schema.WellNamed) {zone : Calendar.Zone} {row : Row}
    {columns : List Column} {terms : List Term} (inside : ∀ column ∈ columns, column ∈ schema.columns)
    (encodes : List.Forall₂ (Encodes zone row) columns terms) : ∀ term ∈ terms, term.IsPlain := by
  induction encodes with
  | nil => simp
  | @cons column term columns terms first _ ih =>
    have name : IsWord term.1.toList := by
      rw [first.1]
      exact isWord_identifier (names.columns column (inside column (by simp)))
    have others := ih fun other inRest => inside other (by simp [inRest])
    exact List.forall_mem_cons.mpr ⟨⟨name, isPlain_encode first.2⟩, others⟩

/-- Statements on rows of an accepted schema have their fixed words, the names
    of the schema, and for each column that they list the literal of its value,
    whatever the rows hold. -/
theorem statement_structure {document : Json} {schema : TableSchema}
    (accepted : TableSchema.ofJson document = .ok schema) (dialect : Dialect) :
    (∀ row statement, dialect.insert schema row = .ok statement →
      ∃ cells, List.Forall₂ (StandsFor dialect.zone row) schema.columns cells ∧
        scan statement.text = insertTokens schema.qualifiedName cells) ∧
    (∀ old new statement, dialect.update schema old new = .ok statement →
      (schema.otherColumns = [] → ∃ cells, List.Forall₂ (StandsFor dialect.zone new) schema.keyColumns cells ∧
        scan statement.text = insertTokens schema.qualifiedName cells) ∧
      (schema.otherColumns ≠ [] → ∃ assigned key,
        List.Forall₂ (StandsFor dialect.zone new) schema.otherColumns assigned ∧
        List.Forall₂ (StandsFor dialect.zone old) schema.keyColumns key ∧
        scan statement.text = updateTokens schema.qualifiedName assigned key)) ∧
    (∀ row statement, dialect.delete schema row = .ok statement →
      ∃ key, List.Forall₂ (StandsFor dialect.zone row) schema.keyColumns key ∧
        scan statement.text = deleteTokens schema.qualifiedName key) := by
  have names := wellNamed_of_ofJson accepted
  have table := isWord_qualifiedName names
  have inKey : ∀ column ∈ schema.keyColumns, column ∈ schema.columns := fun _ => mem_keyColumns
  have isOther : ∀ column ∈ schema.otherColumns, column ∈ schema.columns := fun _ => mem_otherColumns
  refine ⟨?_, ?_, ?_⟩
  · intro row statement built
    obtain ⟨terms, rfl, encodes⟩ := Dialect.insertInto_eq_ok built
    exact ⟨_, standsFor_cells encodes, scan_insert table (isPlain_terms names (fun _ inside => inside) encodes)⟩
  · intro old new statement built
    rcases Dialect.update_eq_ok names built with ⟨none, terms, rfl, encodes⟩ | ⟨some, assigned, key, rfl, sets, keyed⟩
    · refine ⟨fun _ => ?_, fun some => absurd none some⟩
      exact ⟨_, standsFor_cells encodes, scan_insert table (isPlain_terms names inKey encodes)⟩
    · refine ⟨fun none => absurd none some, fun _ => ?_⟩
      exact ⟨_, _, standsFor_cells sets, standsFor_cells keyed,
        scan_update table (isPlain_terms names isOther sets) (isPlain_terms names inKey keyed)⟩
  · intro row statement built
    obtain ⟨key, rfl, keyed⟩ := Dialect.delete_eq_ok names built
    exact ⟨_, standsFor_cells keyed, scan_delete table (isPlain_terms names inKey keyed)⟩

theorem quoted_note_structure :
    let schema : TableSchema := ⟨"app", "notes", [⟨"id", .integer .int, true, .regular⟩,
      ⟨"note", .textual .text, true, .regular⟩]⟩
    let row : Row := [("id", .scalar (.bigint 7)), ("note", .scalar (.text "it's, (a) = 'note'"))]
    TableSchema.ofJson (.object [("keyspace", .string "app"), ("table", .string "notes"),
        ("columns", .array [
          .object [("name", .string "id"), ("type", .object [("kind", .string "int")])],
          .object [("name", .string "note"), ("type", .object [("kind", .string "text")])]])]) = .ok schema ∧
      (Dialect.mk .utc false).insert schema row =
        .ok (.insert "app.notes" [("id", .bare "7"), ("note", .quoted "it's, (a) = 'note'")]) ∧
      ∃ cells, List.Forall₂ (StandsFor .utc row) schema.columns cells ∧
        scan (Statement.insert "app.notes" [("id", .bare "7"), ("note", .quoted "it's, (a) = 'note'")]).text =
          insertTokens "app.notes" cells := by
  intro schema row
  have accepted : TableSchema.ofJson (.object [("keyspace", .string "app"), ("table", .string "notes"),
      ("columns", .array [
        .object [("name", .string "id"), ("type", .object [("kind", .string "int")])],
        .object [("name", .string "note"), ("type", .object [("kind", .string "text")])]])]) = .ok schema := by
    rfl
  have built : (Dialect.mk .utc false).insert schema row =
      .ok (.insert "app.notes" [("id", .bare "7"), ("note", .quoted "it's, (a) = 'note'")]) := by
    have seven : Text.integer 7 = "7" := by decide +kernel
    rw [← seven]
    rfl
  exact ⟨accepted, built, (statement_structure accepted (Dialect.mk .utc false)).1 row _ built⟩

end CqlTable
