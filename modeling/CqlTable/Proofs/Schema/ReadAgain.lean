import CqlTable.Proofs.Schema.Accepted

/-!
# Schemas read again: accepted documents and their schemas

An accepted schema is read back from its own document as it is (`schema_again`),
and its columns are found by their names in any letter case (`find_recased`).
-/

namespace CqlTable

open Text

/-! ## Schemas as documents -/

/-- The members of a type in a document. -/
def LogicalType.members (type : LogicalType) : List (String × Json) :=
  ("kind", .string type.kind) ::
    match type with
    | decimal scale => [("scale", .number (Double.ofNat scale))]
    | blob (some length) => [("length", .number (Double.ofNat length))]
    | other name => [("name", .string name)]
    | _ => []

/-- A column as a document. -/
def Column.document (column : Column) : Json :=
  .object [("name", .string column.name), ("type", .object column.type.members), ("nullable", .boolean column.nullable),
    ("role", .string column.role.name)]

/-- A schema as a document. -/
def TableSchema.document (schema : TableSchema) : Json :=
  .object [("keyspace", .string schema.keyspace), ("table", .string schema.table),
    ("columns", .array (schema.columns.map Column.document))]

/-- What the document of a type gives. -/
def LogicalType.given : LogicalType → GivenType
  | integer kind => .plain (integer kind) (by cases kind <;> decide)
  | floating kind => .plain (floating kind) (by cases kind <;> decide)
  | decimal scale => .decimal (Double.ofNat scale)
  | blob length => .blob (length.map Double.ofNat)
  | textual kind => .plain (textual kind) (by cases kind <;> decide)
  | date => .plain date (by decide)
  | time => .plain time (by decide)
  | timestamp => .plain timestamp (by decide)
  | boolean => .plain boolean (by decide)
  | other name => .other name

/-- What the document of a column gives. -/
def Column.given (column : Column) : GivenColumn :=
  ⟨column.name, column.type.given, some column.nullable, some column.role⟩

/-- What the document of a schema gives. -/
def TableSchema.given (schema : TableSchema) : GivenSchema :=
  ⟨schema.keyspace, schema.table, schema.columns.map Column.given⟩

theorem given_in_members (type : LogicalType) : type.given.In (.object type.members) := by
  cases type with
  | decimal scale => exact ⟨rfl, rfl⟩
  | blob length => cases length <;> exact ⟨rfl, rfl⟩
  | other name => exact ⟨rfl, rfl⟩
  | _ => rfl

theorem given_in_document (schema : TableSchema) : schema.given.In schema.document := by
  refine ⟨rfl, rfl, _, rfl, List.forall₂_map_left_iff.mpr (List.forall₂_map_right_iff.mpr ?_)⟩
  exact List.forall₂_same.mpr fun column _ => ⟨rfl, ⟨_, rfl, given_in_members column.type⟩, rfl, rfl⟩

theorem given_of_plain {type : LogicalType} (isPlain : (type.kind, type) ∈ plainTypes) :
    type.given = .plain type isPlain := by
  cases type with
  | decimal scale => simp [plainTypes] at isPlain
  | blob length => simp [plainTypes] at isPlain
  | other name => simp [plainTypes] at isPlain
  | _ => rfl

theorem natural_again {d : Double} (isNatural : IsNatural d) :
    IsNatural (Double.ofNat d.natural) ∧ (Double.ofNat d.natural).natural = d.natural := by
  obtain ⟨n, integer⟩ := isNatural_iff.mp isNatural
  have again : (Double.ofNat d.natural).toInt? = some (d.natural : Int) := by
    rw [natural_of_toInt integer]
    exact isExact_of_toInt integer
  exact ⟨isNatural_iff.mpr ⟨_, again⟩, natural_of_toInt again⟩

/-- A type that is written as it was read is read again as it is. -/
theorem type_again {given : GivenType} (wellFormed : given.WellFormed) :
    given.filled.given.WellFormed ∧ given.filled.given.filled = given.filled := by
  cases given with
  | plain type isPlain =>
    rw [GivenType.filled, given_of_plain isPlain]
    exact ⟨trivial, rfl⟩
  | decimal scale =>
    obtain ⟨isNatural, same⟩ := natural_again wellFormed
    exact ⟨isNatural, congrArg LogicalType.decimal same⟩
  | blob length =>
    cases length with
    | none => exact ⟨wellFormed, rfl⟩
    | some d =>
      obtain ⟨isNatural, same⟩ := natural_again (wellFormed d rfl)
      refine ⟨?_, congrArg (fun n => LogicalType.blob (some n)) same⟩
      rintro _ ⟨⟩
      exact isNatural
  | other name => exact ⟨wellFormed, rfl⟩

theorem column_again {given : GivenColumn} (wellFormed : given.WellFormed) :
    given.filled.given.WellFormed ∧ given.filled.given.filled = given.filled := by
  obtain ⟨isWellFormed, same⟩ := type_again wellFormed.type
  exact ⟨⟨wellFormed.name, isWellFormed⟩, congrArg (fun type => { given.filled with type := type }) same⟩

theorem schema_again {given : GivenSchema} (wellFormed : given.WellFormed) :
    given.filled.given.WellFormed ∧ given.filled.given.filled = given.filled := by
  constructor
  · refine ⟨wellFormed.keyspace, wellFormed.table, ?_⟩
    simp only [TableSchema.given, GivenSchema.filled, List.forall_mem_map]
    exact fun column inside => (column_again (wellFormed.columns column inside)).1
  · simp only [TableSchema.given, GivenSchema.filled, List.map_map]
    congr 1
    exact List.map_congr_left fun column inside => (column_again (wellFormed.columns column inside)).2

theorem names_again (given : GivenSchema) : given.filled.given.names = given.names := by
  simp [TableSchema.given, GivenSchema.filled, GivenSchema.names, Column.given, GivenColumn.filled, Function.comp_def]

/-! ## Acceptance -/

/-- A column of an accepted schema is found by each name that is its own but for
    the case of ASCII letters. -/
theorem find_recased {j : Json} {schema : TableSchema} (accepted : TableSchema.ofJson j = .ok schema) {column : Column}
    (inside : column ∈ schema.columns) {name : String} (recased : foldAscii name = foldAscii column.name) :
    schema.findColumn? name = some column := by
  have same : lower name = lower column.name := by rw [← lower_foldAscii, recased, lower_foldAscii]
  have byName := (wellNamed_of_ofJson accepted).find inside
  simpa only [TableSchema.findColumn?, sameName, same] using byName

/-- Accepted documents have members of the right types. Of those that have, the
    ones are accepted whose names are plain identifiers, whose types are well
    formed and whose columns have distinct names. The schema has the columns in
    their order with defaults for what is left out; it is read back from its own
    document, and columns are found by their names in any case. All others are
    refused with an issue; where only names come again, there is one issue for
    each name that an earlier column has. -/
theorem documents_accepted_exactly (j : Json) :
    (∀ schema, TableSchema.ofJson j = .ok schema → ∃ given : GivenSchema, given.In j) ∧
      ∀ given : GivenSchema, given.In j →
        ((∃ schema, TableSchema.ofJson j = .ok schema) ↔ given.WellFormed ∧ given.Distinct) ∧
        (∀ schema, TableSchema.ofJson j = .ok schema →
          schema = given.filled ∧ TableSchema.ofJson schema.document = .ok schema ∧
            ∀ column ∈ schema.columns, ∀ name, foldAscii name = foldAscii column.name →
              schema.findColumn? name = some column) ∧
        (∀ e, TableSchema.ofJson j = .error e →
          ∃ issues, issues ≠ [] ∧ e = .invalidSchema given.keyspace given.table issues) ∧
        (given.WellFormed → ¬ given.Distinct →
          TableSchema.ofJson j = .error (.invalidSchema given.keyspace given.table
            ((repeated given.names).map duplicateIssue))) := by
  refine ⟨fun schema accepted => exists_given_of_ofJson accepted, fun given isIn => ⟨?_, ?_, ?_, ?_⟩⟩
  · constructor
    · rintro ⟨schema, accepted⟩
      exact ((accepted_iff isIn).mp accepted).1
    · intro sound
      exact ⟨given.filled, (accepted_iff isIn).mpr ⟨sound, rfl⟩⟩
  · intro schema accepted
    obtain ⟨⟨wellFormed, distinct⟩, rfl⟩ := (accepted_iff isIn).mp accepted
    refine ⟨rfl, ?_, fun column inside name recased => find_recased accepted inside recased⟩
    obtain ⟨stillWellFormed, same⟩ := schema_again wellFormed
    have stillDistinct : given.filled.given.Distinct := by
      rw [GivenSchema.Distinct, names_again]
      exact distinct
    exact (accepted_iff (given_in_document given.filled)).mpr ⟨⟨stillWellFormed, stillDistinct⟩, same.symm⟩
  · intro e refused
    by_cases wellFormed : given.WellFormed
    · rw [ofJson_of_wellFormed isIn wellFormed] at refused
      split at refused
      · cases refused
      · next again =>
        cases refused
        exact ⟨_, mt (repeated_eq_nil_iff wellFormed.names).mp again, rfl⟩
    · obtain ⟨issues, some, isRefused⟩ := ofJson_of_not_wellFormed isIn wellFormed
      rw [isRefused, Except.error.injEq] at refused
      exact ⟨issues, some, refused.symm⟩
  · intro wellFormed again
    rw [ofJson_of_wellFormed isIn wellFormed, if_neg again]

/-- A key column found in other letter case, a decimal with its scale, and the
    second and third of three columns with one name. -/
theorem orders_accepted :
    let key : Json := .object [("role", .string "partition_key"), ("type", .object [("kind", .string "int")]),
      ("name", .string "Id")]
    let price : Json := .object [("name", .string "price"), ("nullable", .boolean false),
      ("type", .object [("kind", .string "decimal"), ("scale", .number (Double.ofNat 2))])]
    let again (name : String) : Json := .object [("name", .string name), ("type", .object [("kind", .string "text")])]
    let document (columns : List Json) : Json :=
      .object [("keyspace", .string "shop"), ("table", .string "orders"), ("columns", .array columns)]
    (∃ schema, TableSchema.ofJson (document [key, price]) = .ok schema ∧
      schema.columns = [⟨"Id", .integer .int, true, .partitionKey⟩, ⟨"price", .decimal 2, false, .regular⟩] ∧
      schema.findColumn? "ID" = some ⟨"Id", .integer .int, true, .partitionKey⟩) ∧
    TableSchema.ofJson (document [key, again "ID", price, again "id"]) =
      .error (.invalidSchema "shop" "orders" [⟨["columns", "1", "name"], .duplicateColumn "ID"⟩,
        ⟨["columns", "3", "name"], .duplicateColumn "id"⟩]) := by
  intro key price again document
  have two : IsNatural (Double.ofNat 2) := isNatural_iff.mpr ⟨2, isExact_of_le (by decide)⟩
  let givenKey : GivenColumn := ⟨"Id", .plain (.integer .int) (by decide), none, some .partitionKey⟩
  let givenPrice : GivenColumn := ⟨"price", .decimal (Double.ofNat 2), some false, none⟩
  let givenAgain (name : String) : GivenColumn := ⟨name, .plain (.textual .text) (by decide), none, none⟩
  have keyIn : givenKey.In key := ⟨rfl, ⟨_, rfl, rfl⟩, rfl, rfl⟩
  have priceIn : givenPrice.In price := ⟨rfl, ⟨_, rfl, rfl, rfl⟩, rfl, rfl⟩
  have againIn (name : String) : (givenAgain name).In (again name) := ⟨rfl, ⟨_, rfl, rfl⟩, rfl, rfl⟩
  have keyFormed : givenKey.WellFormed := ⟨by decide, trivial⟩
  have priceFormed : givenPrice.WellFormed := ⟨by decide, two⟩
  constructor
  · let given : GivenSchema := ⟨"shop", "orders", [givenKey, givenPrice]⟩
    have isIn : given.In (document [key, price]) := ⟨rfl, rfl, _, rfl, .cons keyIn (.cons priceIn .nil)⟩
    have wellFormed : given.WellFormed := ⟨by decide, by decide, by simp [given, keyFormed, priceFormed]⟩
    obtain ⟨_, all⟩ := documents_accepted_exactly (document [key, price])
    obtain ⟨accepted, result, _, _⟩ := all given isIn
    obtain ⟨schema, isSchema⟩ := accepted.mpr ⟨wellFormed, by decide⟩
    obtain ⟨rfl, _, found⟩ := result schema isSchema
    have scale : (Double.ofNat 2).natural = 2 := natural_of_toInt (isExact_of_le (by decide))
    refine ⟨_, isSchema, ?_, found givenKey.filled (by simp [GivenSchema.filled, given]) "ID" (by decide)⟩
    simp [GivenSchema.filled, given, givenKey, givenPrice, GivenColumn.filled, GivenType.filled, scale]
  · let given : GivenSchema := ⟨"shop", "orders", [givenKey, givenAgain "ID", givenPrice, givenAgain "id"]⟩
    have isIn : given.In (document [key, again "ID", price, again "id"]) :=
      ⟨rfl, rfl, _, rfl, .cons keyIn (.cons (againIn "ID") (.cons priceIn (.cons (againIn "id") .nil)))⟩
    have wellFormed : given.WellFormed :=
      ⟨by decide, by decide, by
        simp only [given, List.forall_mem_cons]
        exact ⟨keyFormed, ⟨by decide, trivial⟩, priceFormed, ⟨by decide, trivial⟩, by simp⟩⟩
    obtain ⟨_, all⟩ := documents_accepted_exactly (document [key, again "ID", price, again "id"])
    have names : repeated given.names = [("ID", 1), ("id", 3)] := by decide
    have first : Text.numeral 1 = "1" := by rw [Text.numeral, Text.numeralChars]; rfl
    have second : Text.numeral 3 = "3" := by rw [Text.numeral, Text.numeralChars]; rfl
    rw [(all given isIn).2.2.2 wellFormed (by decide), names]
    simp [duplicateIssue, first, second, given]

end CqlTable
