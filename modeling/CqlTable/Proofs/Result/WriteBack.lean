import CqlTable.Proofs.Conversion.CalendarText
import CqlTable.Proofs.Conversion.Literals
import CqlTable.Proofs.Statement.Terms
import CqlTable.Proofs.Value.Rows

/-!
# Writing back: rows that are read, written and read again

A row that was read without errors is written as literals which, as cells, are
read as the same row.
-/

namespace CqlTable

open Text Calendar

/-! ## Literals as cells -/

/-- The cell that the text of a literal stores: what is between its quotes, with
    doubled quotes as one, or all of it. -/
def unquote (text : String) : String :=
  match text.toList with
  | '\'' :: rest => String.ofList (halveQuotes rest.dropLast)
  | _ => text

theorem unquote_word {text : String} (word : IsWord text.toList) : unquote text = text := by
  unfold unquote
  split
  · rename_i rest chars
    rw [chars] at word
    exact absurd (word.2 '\'' (by simp)) (by decide)
  · rfl

theorem unquote_text {literal : Literal} (plain : literal.IsPlain) : unquote literal.text = literal.cell := by
  cases literal with
  | null => rfl
  | bare text => exact unquote_word plain
  | quoted text =>
    have chars : (Literal.quoted text).text.toList = '\'' :: (doubleQuotes text.toList ++ ['\'']) := by
      simp [Literal.text, escape]
    simp [unquote, chars, halveQuotes_doubleQuotes, Literal.cell]

/-! ## Values of columns -/

/-- What a cell is read as is encoded as a literal that is read as the same
    scalar. -/
theorem encode_decoded (zone : Zone) {type : LogicalType} {text : String} {s : Scalar} (exact : type.IsExact)
    (decoded : decode type text = .ok (some s)) (holds : type.Holds s) :
    ∃ literal, encode zone type (.scalar s) = .ok literal ∧ decode type literal.cell = .ok (some s.plainZero) := by
  obtain ⟨notNull, read⟩ := decode_eq_some_iff.mp decoded
  cases type with
  | integer kind =>
    obtain ⟨i, written, again⟩ := round_trip_integer read
    exact ⟨_, written, decode_of_refused rfl rfl again⟩
  | blob length =>
    obtain ⟨bytes, rfl⟩ : ∃ bytes, s = .bytes bytes := by
      simp only [decodeScalar, decodeBlob] at read
      split at read
      · cases read
        exact ⟨_, rfl⟩
      · cases read
    exact ⟨_, encodeBlob_bytes holds, decode_of_refused rfl rfl (decodeBlob_hex length bytes)⟩
  | date =>
    obtain ⟨written, encoded, again⟩ := round_trip_date zone read holds
    exact ⟨_, encoded, decode_of_refused rfl rfl again⟩
  | time =>
    obtain ⟨written, encoded, again⟩ := round_trip_time zone read
    exact ⟨_, encoded, decode_of_refused rfl rfl again⟩
  | boolean =>
    cases read
    generalize decide (text = "true" ∨ text = "1") = b
    refine ⟨_, rfl, ?_⟩
    cases b <;> rfl
  | textual kind =>
    cases read
    exact ⟨_, rfl, decode_eq_some_iff.mpr ⟨notNull, rfl⟩⟩
  | other name =>
    cases read
    exact ⟨_, rfl, decode_eq_some_iff.mpr ⟨notNull, rfl⟩⟩
  | _ => exact False.elim exact

/-! ## Rows -/

/-- What was read as the value to be written. -/
def Value.ofRead : Option Scalar → Value
  | some s => scalar s
  | none => null

/-- The row as it is handed to a statement. -/
def DecodedRow.written (row : DecodedRow) : Row := row.map fun entry => (entry.1, Value.ofRead entry.2)

/-- The same row, but for the signs of zeros. -/
def DecodedRow.plainZero (row : DecodedRow) : DecodedRow := row.map fun entry => (entry.1, entry.2.map Scalar.plainZero)

/-- What a row that has been read keeps of a column: nothing of one with the
    name of its parent. -/
def keptValue (value : Column → Option Scalar) (column : Column) : Option Scalar :=
  if column.name = parentName then none else value column

theorem mem_ofEntries {columns : List Column} {value : Column → Option Scalar} {entry : String × Option Scalar} :
    entry ∈ DecodedRow.ofEntries (columns.map fun column => (column.name, value column)) ↔
      ∃ column ∈ columns, column.name ≠ parentName ∧ entry = (column.name, value column) := by
  simp only [DecodedRow.ofEntries, List.mem_filter, List.mem_map, decide_eq_true_eq]
  constructor
  · rintro ⟨⟨column, inside, rfl⟩, kept⟩
    exact ⟨column, inside, kept, rfl⟩
  · rintro ⟨column, inside, kept, rfl⟩
    exact ⟨⟨column, inside, rfl⟩, kept⟩

theorem ofEntries_keptValue (columns : List Column) (value : Column → Option Scalar) :
    DecodedRow.ofEntries (columns.map fun column => (column.name, keptValue value column)) =
      DecodedRow.ofEntries (columns.map fun column => (column.name, value column)) := by
  rw [DecodedRow.ofEntries, DecodedRow.ofEntries, List.filter_map, List.filter_map]
  refine List.map_congr_left fun column inside => ?_
  have kept : column.name ≠ parentName := by simpa using (List.mem_filter.mp inside).2
  rw [keptValue, if_neg kept]

theorem distinct_written {columns : List Column} (value : Column → Option Scalar)
    (distinct : (columns.map fun column => Text.lower column.name).Nodup) :
    Row.Distinct (DecodedRow.written (.ofEntries (columns.map fun column => (column.name, value column)))) := by
  have names : (columns.map fun column => (column.name, value column)).map (fun entry => Text.lower entry.1) =
      columns.map fun column => Text.lower column.name := List.map_map
  rw [Row.Distinct, DecodedRow.written, List.map_map]
  exact (names ▸ distinct).sublist (List.filter_sublist.map _)

theorem plainZero_ofEntries (entries : List (String × Option Scalar)) :
    DecodedRow.plainZero (.ofEntries entries) =
      .ofEntries (entries.map fun entry => (entry.1, entry.2.map Scalar.plainZero)) := by
  rw [DecodedRow.plainZero, DecodedRow.ofEntries, DecodedRow.ofEntries, List.filter_map]
  rfl

/-- A column has its value, or no value if the row keeps none of it. -/
theorem value_written {columns : List Column} {column : Column} (value : Column → Option Scalar)
    (distinct : (columns.map fun column => Text.lower column.name).Nodup) (inside : column ∈ columns) :
    Row.value (DecodedRow.written (.ofEntries (columns.map fun column => (column.name, value column)))) column.name =
      if column.name = parentName then .missing else Value.ofRead (value column) := by
  have distinctRow := distinct_written value distinct
  rw [Row.value_of_distinct distinctRow]
  split
  · rename_i parent
    refine congrArg (Option.getD · _) (Option.eq_none_iff_forall_ne_some.mpr fun found isFound => ?_)
    obtain ⟨entry, written, same⟩ := List.mem_map.mp (mem_of_get isFound)
    obtain ⟨read, readInside, rfl⟩ := List.mem_map.mp written
    obtain ⟨other, otherInside, kept, rfl⟩ := mem_ofEntries.mp readInside
    have isColumn : other = column := List.inj_on_of_nodup_map distinct otherInside inside (congrArg Prod.fst same)
    exact kept (isColumn ▸ parent)
  · rename_i kept
    have written : (column.name, value column) ∈
        DecodedRow.ofEntries (columns.map fun column => (column.name, value column)) :=
      mem_ofEntries.mpr ⟨column, inside, kept, rfl⟩
    rw [get_of_mem distinctRow.lowered (List.mem_map.mpr ⟨_, List.mem_map.mpr ⟨_, written, rfl⟩, rfl⟩)]
    rfl

theorem encode_written (zone : Zone) {columns : List Column} {column : Column} (value : Column → Option Scalar)
    (distinct : (columns.map fun column => Text.lower column.name).Nodup) (inside : column ∈ columns) :
    encode zone column.type
        (Row.value (DecodedRow.written (.ofEntries (columns.map fun column => (column.name, value column))))
          column.name) =
      encode zone column.type (Value.ofRead (keptValue value column)) := by
  rw [value_written value distinct inside, keptValue]
  split
  · rfl
  · rfl

theorem names_of_encodes {zone : Zone} {row : Row} {columns : List Column} {terms : List Term}
    (encodes : List.Forall₂ (Encodes zone row) columns terms) : terms.map (·.1) = columns.map (·.name) := by
  induction encodes with
  | nil => rfl
  | cons first _ ih => rw [List.map_cons, List.map_cons, first.1, ih]

theorem exists_term {zone : Zone} {row : Row} {columns : List Column} {terms : List Term} {column : Column} {i : Nat}
    (encodes : List.Forall₂ (Encodes zone row) columns terms) (found : columns[i]? = some column) :
    ∃ term, terms[i]? = some term ∧ Encodes zone row column term := by
  induction encodes generalizing i with
  | nil => simp at found
  | cons first _ ih =>
    cases i with
    | zero =>
      cases found
      exact ⟨_, rfl, first⟩
    | succ i => exact ih found

/-- A row that was read without errors is written, and the literals that are
    written are read as the same row without errors. -/
theorem row_round_trip {document : Json} {schema : TableSchema} {columnNames cells : List String} {row : DecodedRow}
    (accepted : TableSchema.ofJson document = .ok schema) (exact : ∀ column ∈ schema.columns, column.type.IsExact)
    (read : materialize columnNames cells schema = ⟨row, []⟩)
    (holds : ∀ column ∈ schema.columns, ∀ s, (column.name, some s) ∈ row → column.type.Holds s) (dialect : Dialect) :
    ∃ terms, dialect.insert schema row.written = .ok (.insert schema.qualifiedName terms) ∧
      terms.map (·.1) = schema.columns.map (·.name) ∧
      materialize (schema.columns.map (·.name)) (terms.map fun term => unquote term.2.text) schema =
        ⟨row.plainZero, []⟩ := by
  have distinct := (wellNamed_of_ofJson accepted).distinct
  obtain ⟨value, each, rfl⟩ := materializeColumns_clean read
  have written : ∀ column ∈ schema.columns, ∃ literal,
      encode dialect.zone column.type (Value.ofRead (keptValue value column)) = .ok literal ∧
        decode column.type literal.cell = .ok ((keptValue value column).map Scalar.plainZero) := by
    intro column inside
    have found := each column inside
    cases valueIs : keptValue value column with
    | none => exact ⟨.null, rfl, by simp [decode, Literal.cell]⟩
    | some s =>
      obtain ⟨kept, valueIs⟩ : column.name ≠ parentName ∧ value column = some s := by
        simpa [keptValue] using valueIs
      rw [valueIs] at found
      obtain ⟨cell, decoded⟩ := columnValue_eq_some found
      exact encode_decoded dialect.zone (exact column inside) decoded
        (holds column inside s (mem_ofEntries.mpr ⟨column, inside, kept, by rw [valueIs]⟩))
  have encoded : ∀ column ∈ schema.columns, ∃ literal, encode dialect.zone column.type
      (Row.value (DecodedRow.written (.ofEntries (schema.columns.map fun column => (column.name, value column))))
        column.name) = .ok literal := by
    intro column inside
    obtain ⟨literal, same, _⟩ := written column inside
    exact ⟨literal, by rwa [encode_written dialect.zone value distinct inside]⟩
  obtain ⟨terms, built⟩ := Dialect.exists_terms_iff.mpr encoded
  have encodes := Dialect.terms_eq_ok built
  refine ⟨terms, ?_, names_of_encodes encodes, ?_⟩
  · rw [Dialect.insert, Dialect.insertInto, built]
    rfl
  -- Columns have distinct names, so each gets the cell of its own literal.
  · have again : ∀ column ∈ schema.columns,
        columnValue (columnIndex (schema.columns.map (·.name))) (terms.map fun term => unquote term.2.text) column =
          .ok ((keptValue value column).map Scalar.plainZero) := by
      intro column inside
      obtain ⟨i, found⟩ := List.getElem?_of_mem inside
      obtain ⟨term, termIs, _, encoded⟩ := exists_term encodes found
      obtain ⟨literal, same, decoded⟩ := written column inside
      rw [encode_written dialect.zone value distinct inside, same] at encoded
      cases encoded
      have cellIs : (terms.map fun term => unquote term.2.text)[i]? = some term.2.cell := by
        simp [termIs, unquote_text (isPlain_encode same)]
      exact columnValue_self distinct found cellIs decoded
    rw [materialize, materializeColumns_ok again, ← ofEntries_keptValue schema.columns value, plainZero_ofEntries,
      List.map_map]
    rfl

theorem row_round_trip_of_note :
    let schema : TableSchema := ⟨"app", "notes", [⟨"day", .date, true, .regular⟩,
      ⟨"seen", .integer .int, true, .regular⟩, ⟨"body", .textual .text, true, .regular⟩,
      ⟨"mark", .blob none, true, .regular⟩]⟩
    let row : DecodedRow := [("day", some (.fields (dateFields (.signedZero true) 2 30))),
      ("seen", some (.number (Double.ofInt (-7)))), ("body", some (.text "it's")), ("mark", none)]
    materialize ["BODY", "seen", "Day"] ["it's", " -007", "-0-2-30"] schema = ⟨row, []⟩ ∧
      ∃ terms, (Dialect.mk .local false).insert schema row.written = .ok (.insert "app.notes" terms) ∧
        terms.map (·.1) = ["day", "seen", "body", "mark"] ∧
        materialize ["day", "seen", "body", "mark"] (terms.map fun term => unquote term.2.text) schema =
          ⟨row.plainZero, []⟩ := by
  intro schema row
  have accepted : TableSchema.ofJson (.object [("keyspace", .string "app"), ("table", .string "notes"),
      ("columns", .array [
        .object [("name", .string "day"), ("type", .object [("kind", .string "date")])],
        .object [("name", .string "seen"), ("type", .object [("kind", .string "int")])],
        .object [("name", .string "body"), ("type", .object [("kind", .string "text")])],
        .object [("name", .string "mark"), ("type", .object [("kind", .string "blob")])]])]) = .ok schema := by
    rfl
  have read : materialize ["BODY", "seen", "Day"] ["it's", " -007", "-0-2-30"] schema = ⟨row, []⟩ := by
    decide +kernel
  have exact : ∀ column ∈ schema.columns, column.type.IsExact := by
    intro column inside
    simp only [schema, List.mem_cons, List.not_mem_nil, or_false] at inside
    rcases inside with rfl | rfl | rfl | rfl <;> trivial
  have holds : ∀ column ∈ schema.columns, ∀ s, (column.name, some s) ∈ row → column.type.Holds s := by
    intro column inside s isValue
    simp only [schema, List.mem_cons, List.not_mem_nil, or_false] at inside
    rcases inside with rfl | rfl | rfl | rfl
    · obtain rfl : s = .fields (dateFields (.signedZero true) 2 30) := by simpa [row] using isValue
      intro year isYear
      cases isYear
      simp [Double.signedZero, Double.value, Number.scaled]
    · trivial
    · trivial
    · trivial
  exact ⟨read, row_round_trip accepted exact read holds (Dialect.mk .local false)⟩

end CqlTable
