import CqlTable.Proofs.Named
import CqlTable.Proofs.Text.LetterCase
import CqlTable.Proofs.Validation
import CqlTable.Schema.Checked

/-!
# Documents of schemas: types, columns and names that are given

A document whose members are of the right types is checked member by member
(`schema_validWhen`): it is valid exactly when its names are plain identifiers and
its types are well formed, and there is an issue otherwise. No other document is
valid (`exists_given`).
-/

namespace CqlTable

open Text

/-! ## Plain identifiers -/

/-- A letter or an underscore, and then letters, digits and underscores. All of
    them are of ASCII. -/
def IsPlainIdentifier (s : String) : Prop :=
  ∃ first rest, s.toList = first :: rest ∧ (first.isAlpha = true ∨ first = '_') ∧
    ∀ c ∈ rest, c.isAlphanum = true ∨ c = '_'

theorem isNameStart_iff (c : Char) : isNameStart c = true ↔ c.isAlpha = true ∨ c = '_' := by
  have letter : c.isAlpha = (decide ('A' ≤ c ∧ c ≤ 'Z') || ('a' ≤ c && c ≤ 'z')) := rfl
  rw [isNameStart, letter, Bool.decide_and, Bool.or_eq_true (_ || _), beq_iff_eq]

theorem isNameChar_iff (c : Char) : isNameChar c = true ↔ c.isAlphanum = true ∨ c = '_' := by
  have alphanumeric : c.isAlphanum = (c.isAlpha || ('0' ≤ c && c ≤ '9')) := rfl
  rw [isNameChar, alphanumeric, Bool.or_eq_true, Bool.or_eq_true, isNameStart_iff]
  tauto

theorem isIdentifier_iff {s : String} : isIdentifier s = true ↔ IsPlainIdentifier s := by
  unfold isIdentifier IsPlainIdentifier
  cases s.toList with
  | nil => simp
  | cons first rest => simp [isNameStart_iff, isNameChar_iff]

instance (s : String) : Decidable (IsPlainIdentifier s) := decidable_of_iff _ isIdentifier_iff

theorem chars_of_isIdentifier {s : String} (identifier : isIdentifier s = true) :
    s.toList ≠ [] ∧ ∀ c ∈ s.toList, isNameChar c = true := by
  unfold isIdentifier at identifier
  split at identifier
  · cases identifier
  · rename_i first rest chars
    simp only [Bool.and_eq_true, List.all_eq_true] at identifier
    obtain ⟨start, others⟩ := identifier
    rw [chars]
    exact ⟨by simp, List.forall_mem_cons.mpr ⟨by simp [isNameChar, start], others⟩⟩

theorem ascii_of_isNameChar {c : Char} (isName : isNameChar c = true) : c.toNat < 128 := by
  have le_iff (a b : Char) : a ≤ b ↔ a.toNat ≤ b.toNat := Iff.rfl
  simp only [isNameChar, isNameStart, Bool.or_eq_true, Bool.and_eq_true, decide_eq_true_eq, beq_iff_eq,
    le_iff] at isName
  rcases isName with ((⟨-, high⟩ | ⟨-, high⟩) | rfl) | ⟨-, high⟩
  · exact lt_of_le_of_lt high (by decide)
  · exact lt_of_le_of_lt high (by decide)
  · decide
  · exact lt_of_le_of_lt high (by decide)

/-- Letter case of plain identifiers is that of ASCII. -/
theorem lower_of_plain {s : String} (plain : IsPlainIdentifier s) : lower s = foldAscii s := by
  apply lower_of_ascii
  intro c inside
  obtain ⟨-, chars⟩ := chars_of_isIdentifier (isIdentifier_iff.mpr plain)
  exact ascii_of_isNameChar (chars c inside)

/-! ## Documents of the right member types -/

/-- The type of a column as a document gives it. -/
inductive GivenType
  | plain (type : LogicalType) (isPlain : (type.kind, type) ∈ plainTypes)
  | decimal (scale : Double)
  | blob (length : Option Double)
  | other (name : String)

/-- A column as a document gives it. -/
structure GivenColumn where
  name : String
  type : GivenType
  nullable : Option Bool
  role : Option Role

/-- A schema as a document gives it. -/
structure GivenSchema where
  keyspace : String
  table : String
  columns : List GivenColumn

/-- The document has the members of the type. It may have others, and so may
    those of columns and schemas. -/
def GivenType.In : GivenType → Json → Prop
  | plain type _, j => j.get? "kind" = some (.string type.kind)
  | decimal scale, j => j.get? "kind" = some (.string "decimal") ∧ j.get? "scale" = some (.number scale)
  | blob length, j => j.get? "kind" = some (.string "blob") ∧ j.get? "length" = length.map .number
  | other name, j => j.get? "kind" = some (.string "other") ∧ j.get? "name" = some (.string name)

/-- The document has the members of the column. -/
structure GivenColumn.In (given : GivenColumn) (j : Json) : Prop where
  name : j.get? "name" = some (.string given.name)
  type : ∃ type, j.get? "type" = some type ∧ given.type.In type
  nullable : j.get? "nullable" = given.nullable.map .boolean
  role : j.get? "role" = given.role.map fun role => .string role.name

/-- The document has the members of the schema. -/
structure GivenSchema.In (given : GivenSchema) (j : Json) : Prop where
  keyspace : j.get? "keyspace" = some (.string given.keyspace)
  table : j.get? "table" = some (.string given.table)
  columns : ∃ js, j.get? "columns" = some (.array js) ∧ List.Forall₂ GivenColumn.In given.columns js

/-! ## What documents have to hold -/

/-- The number is a natural number. -/
def IsNatural (d : Double) : Prop := d.isFinite = true ∧ ∃ n : Nat, d.value = n

/-- The parameter of the type is one. -/
def GivenType.WellFormed : GivenType → Prop
  | plain _ _ => True
  | decimal scale => IsNatural scale
  | blob length => ∀ d, length = some d → IsNatural d
  | other name => name ≠ ""

/-- The name and the type of the column are well formed. -/
structure GivenColumn.WellFormed (given : GivenColumn) : Prop where
  name : IsPlainIdentifier given.name
  type : given.type.WellFormed

/-- All names are plain identifiers, and all types are well formed. -/
structure GivenSchema.WellFormed (given : GivenSchema) : Prop where
  keyspace : IsPlainIdentifier given.keyspace
  table : IsPlainIdentifier given.table
  columns : ∀ column ∈ given.columns, column.WellFormed

/-- The names of the columns. -/
def GivenSchema.names (given : GivenSchema) : List String := given.columns.map (·.name)

/-- No two columns have the same name but for the case of ASCII letters. -/
def GivenSchema.Distinct (given : GivenSchema) : Prop := (given.names.map foldAscii).Nodup

instance (given : GivenSchema) : Decidable given.Distinct :=
  inferInstanceAs (Decidable (given.names.map foldAscii).Nodup)

theorem GivenSchema.WellFormed.names {given : GivenSchema} (wellFormed : given.WellFormed) :
    ∀ name ∈ given.names, IsPlainIdentifier name := by
  intro name inside
  obtain ⟨column, isColumn, rfl⟩ := List.mem_map.mp inside
  exact (wellFormed.columns column isColumn).name

/-! ## What documents stand for -/

/-- The natural number that a double is. -/
def Double.natural (d : Double) : Nat := (d.toInt?.getD 0).toNat

/-- The type that is given. -/
def GivenType.filled : GivenType → LogicalType
  | plain type _ => type
  | decimal scale => .decimal scale.natural
  | blob length => .blob (length.map Double.natural)
  | other name => .other name

/-- The column that is given. It may hold nulls and is outside the key unless the
    document says otherwise. -/
def GivenColumn.filled (given : GivenColumn) : Column where
  name := given.name
  type := given.type.filled
  nullable := given.nullable.getD true
  role := given.role.getD .regular

/-- The schema that is given. -/
def GivenSchema.filled (given : GivenSchema) : TableSchema where
  keyspace := given.keyspace
  table := given.table
  columns := given.columns.map GivenColumn.filled

theorem isNatural_iff {d : Double} : IsNatural d ↔ ∃ n : Nat, d.toInt? = some (n : Int) := by
  simp [IsNatural, Double.toInt_eq_some_iff]

theorem natural_of_toInt {d : Double} {n : Nat} (integer : d.toInt? = some (n : Int)) : d.natural = n := by
  simp [Double.natural, integer]

/-! ## Checks of given documents -/

theorem natural_validWhen (path : List String) (d : Double) :
    (Check.integer (.atLeast 0) none path (.number d)).ValidWhen (IsNatural d) d.natural := by
  refine (Check.accept_validWhen path (Check.numberProblems (.atLeast 0) none d) d.natural).congr ?_
  rw [Check.numberProblems_eq_nil, isNatural_iff]
  constructor
  · rintro ⟨i, integer, low, _⟩
    obtain ⟨n, rfl⟩ := Int.eq_ofNat_of_zero_le low
    exact ⟨n, integer⟩
  · rintro ⟨n, integer⟩
    exact ⟨n, integer, Int.natCast_nonneg n, by simp⟩

theorem identifier_validWhen (path : List String) (s : String) :
    (Check.identifier path (.string s)).ValidWhen (IsPlainIdentifier s) s := by
  refine (Check.accept_validWhen path (if isIdentifier s then [] else [.notIdentifier]) s).congr ?_
  rw [← isIdentifier_iff]
  simp

theorem type_check_of_kind {j : Json} {kind : String} (found : j.get? "kind" = some (.string kind))
    (path : List String) : LogicalType.check path j =
      if kind = "decimal" then (Check.required j path "scale" (Check.integer (.atLeast 0) none)).map .decimal
      else if kind = "blob" then (Check.optional j path "length" (Check.integer (.atLeast 0) none)).map .blob
      else if kind = "other" then (Check.required j path "name" Check.nonEmptyText).map .other
      else (Named.get? kind plainTypes).elim (.refuse (path ++ ["kind"]) (.unknownKind LogicalType.kinds)) .valid := by
  cases j with
  | object members =>
    simp only [LogicalType.check, found]
    cases Named.get? kind plainTypes <;> rfl
  | _ => cases found

theorem plainTypes_kinds : ∀ entry ∈ plainTypes, entry.1 ≠ "decimal" ∧ entry.1 ≠ "blob" ∧ entry.1 ≠ "other" := by
  decide

theorem type_validWhen {given : GivenType} {j : Json} (isIn : given.In j) (path : List String) :
    (LogicalType.check path j).ValidWhen given.WellFormed given.filled := by
  cases given with
  | plain plain isPlain =>
    have kind : j.get? "kind" = some (.string plain.kind) := isIn
    obtain ⟨noDecimal, noBlob, noOther⟩ := plainTypes_kinds _ isPlain
    have found : Named.get? plain.kind plainTypes = some plain := get_of_mem (by decide) isPlain
    rw [type_check_of_kind kind, if_neg noDecimal, if_neg noBlob, if_neg noOther, found]
    exact Checked.validWhen_valid plain
  | decimal scale =>
    obtain ⟨kind, found⟩ := isIn
    rw [type_check_of_kind kind, if_pos rfl, Check.required_of_get found]
    exact (natural_validWhen _ scale).map LogicalType.decimal
  | blob length =>
    obtain ⟨kind, found⟩ := isIn
    rw [type_check_of_kind kind, if_neg (by decide), if_pos rfl]
    cases length with
    | none =>
      have absent : Check.optional j path "length" (Check.integer (.atLeast 0) none) = .valid none :=
        Check.optional_eq_valid.mpr (.inl ⟨found, rfl⟩)
      rw [absent]
      exact (Checked.validWhen_valid (LogicalType.blob none)).congr (by simp [GivenType.WellFormed])
    | some d =>
      have present : Check.optional j path "length" (Check.integer (.atLeast 0) none) =
          (Check.integer (.atLeast 0) none (path ++ ["length"]) (.number d)).map some := by
        simp only [Check.optional, Check.member, found, Option.map_some]
      rw [present]
      exact (((natural_validWhen _ d).map some).map LogicalType.blob).congr (by simp [GivenType.WellFormed])
  | other name =>
    obtain ⟨kind, found⟩ := isIn
    rw [type_check_of_kind kind, if_neg (by decide), if_neg (by decide), if_pos rfl, Check.required_of_get found]
    exact (Check.nonEmptyText_validWhen _ name).map LogicalType.other

theorem role_choice (role : Role) : Named.get? role.name roleChoices = some role := by
  cases role <;> rfl

theorem column_validWhen {given : GivenColumn} {j : Json} (isIn : given.In j) (path : List String) :
    (Column.check path j).ValidWhen given.WellFormed given.filled := by
  obtain ⟨name, ⟨type, hasType, isType⟩, nullable, role⟩ := isIn
  have isNullable : Check.defaulted j path "nullable" true Check.flag = .valid (given.nullable.getD true) := by
    rw [Check.defaulted_eq_valid, nullable]
    cases given.nullable with
    | none => exact .inl ⟨rfl, rfl⟩
    | some b => exact .inr ⟨_, rfl, rfl⟩
  have isRole : Check.defaulted j path "role" .regular (Check.choice roleChoices) =
      .valid (given.role.getD .regular) := by
    rw [Check.defaulted_eq_valid, role]
    cases given.role with
    | none => exact .inl ⟨rfl, rfl⟩
    | some role => exact .inr ⟨_, rfl, Check.choice_eq_valid.mpr ⟨_, rfl, role_choice role⟩⟩
  have checks : Column.check path j =
      ((((Checked.valid Column.mk).ap (Check.identifier (path ++ ["name"]) (.string given.name))).ap
        (LogicalType.check (path ++ ["type"]) type)).ap (.valid (given.nullable.getD true))).ap
          (.valid (given.role.getD .regular)) := by
    cases j with
    | object members =>
      rw [Column.check, Check.required_of_get name, Check.required_of_get hasType, isNullable, isRole]
    | _ => cases name
  rw [checks]
  refine (((((Checked.validWhen_valid Column.mk).ap (identifier_validWhen _ given.name)).ap
    (type_validWhen isType _)).ap (Checked.validWhen_valid _)).ap (Checked.validWhen_valid _)).congr ?_
  constructor
  · rintro ⟨⟨⟨⟨_, isPlain⟩, wellFormed⟩, _⟩, _⟩
    exact ⟨isPlain, wellFormed⟩
  · intro wellFormed
    exact ⟨⟨⟨⟨trivial, wellFormed.name⟩, wellFormed.type⟩, trivial⟩, trivial⟩

theorem schema_validWhen {given : GivenSchema} {j : Json} (isIn : given.In j) (path : List String) :
    (TableSchema.checkMembers path j).ValidWhen given.WellFormed given.filled := by
  obtain ⟨keyspace, table, js, hasColumns, columns⟩ := isIn
  have checks : TableSchema.checkMembers path j =
      (((Checked.valid TableSchema.mk).ap (Check.identifier (path ++ ["keyspace"]) (.string given.keyspace))).ap
        (Check.identifier (path ++ ["table"]) (.string given.table))).ap
          (Check.items Column.check (path ++ ["columns"]) 0 js) := by
    cases j with
    | object members =>
      rw [TableSchema.checkMembers, Check.required_of_get keyspace, Check.required_of_get table,
        Check.required_of_get hasColumns, Check.list]
    | _ => cases keyspace
  have each := columns.imp fun given j isIn => column_validWhen isIn
  rw [checks]
  refine ((((Checked.validWhen_valid TableSchema.mk).ap (identifier_validWhen _ given.keyspace)).ap
    (identifier_validWhen _ given.table)).ap (Check.items_validWhen each _ 0)).congr ?_
  constructor
  · rintro ⟨⟨⟨_, isKeyspace⟩, isTable⟩, areColumns⟩
    exact ⟨isKeyspace, isTable, areColumns⟩
  · intro wellFormed
    exact ⟨⟨⟨trivial, wellFormed.keyspace⟩, wellFormed.table⟩, wellFormed.columns⟩

/-! ## Accepted documents have the right member types -/

theorem mem_plainTypes_kind : ∀ entry ∈ plainTypes, entry.2.kind = entry.1 := by
  decide

theorem exists_given_type {path : List String} {j : Json} {type : LogicalType}
    (valid : LogicalType.check path j = .valid type) : ∃ given : GivenType, given.In j := by
  cases hasKind : j.get? "kind" with
  | none => cases j <;> simp [LogicalType.check, hasKind, Check.wrongKind, Checked.refuse] at valid
  | some value =>
    cases value with
    | string kind =>
      rw [type_check_of_kind hasKind] at valid
      split_ifs at valid with decimal blob other
      · obtain ⟨_, isValid, _⟩ := Checked.map_eq_valid.mp valid
        obtain ⟨scale, found, isScale⟩ := Check.required_eq_valid.mp isValid
        obtain ⟨d, rfl, _⟩ := (Check.integer_eq_valid (by decide)).mp isScale
        exact ⟨.decimal d, decimal ▸ hasKind, found⟩
      · obtain ⟨_, isValid, _⟩ := Checked.map_eq_valid.mp valid
        rcases Check.optional_eq_valid.mp isValid with ⟨absent, _⟩ | ⟨length, _, found, isLength, _⟩
        · exact ⟨.blob none, blob ▸ hasKind, absent⟩
        · obtain ⟨d, rfl, _⟩ := (Check.integer_eq_valid (by decide)).mp isLength
          exact ⟨.blob (some d), blob ▸ hasKind, found⟩
      · obtain ⟨_, isValid, _⟩ := Checked.map_eq_valid.mp valid
        obtain ⟨name, found, isName⟩ := Check.required_eq_valid.mp isValid
        obtain ⟨rfl, _⟩ := Check.nonEmptyText_eq_valid.mp isName
        exact ⟨.other _, other ▸ hasKind, found⟩
      · cases found : Named.get? kind plainTypes with
        | none => simp [found, Checked.refuse] at valid
        | some plain =>
          have inside : (kind, plain) ∈ plainTypes := mem_of_get found
          have isKind : plain.kind = kind := mem_plainTypes_kind _ inside
          exact ⟨.plain plain (isKind ▸ inside), isKind ▸ hasKind⟩
    | _ => cases j <;> simp [LogicalType.check, hasKind, Checked.refuse] at valid <;> cases hasKind

theorem role_of_choice {s : String} {role : Role} (found : Named.get? s roleChoices = some role) : s = role.name := by
  have names : ∀ entry ∈ roleChoices, entry.1 = entry.2.name := by decide
  exact names _ (mem_of_get found)

theorem exists_given_column {path : List String} {j : Json} {column : Column}
    (valid : Column.check path j = .valid column) : ∃ given : GivenColumn, given.In j := by
  cases j with
  | object members =>
    obtain ⟨f, role, named, isRole, rfl⟩ := Checked.ap_eq_valid.mp valid
    obtain ⟨g, nullable, typed, isNullable, rfl⟩ := Checked.ap_eq_valid.mp named
    obtain ⟨h, type, first, isType, rfl⟩ := Checked.ap_eq_valid.mp typed
    obtain ⟨_, name, made, isName, rfl⟩ := Checked.ap_eq_valid.mp first
    obtain ⟨_, foundName, isText⟩ := Check.required_eq_valid.mp isName
    obtain ⟨rfl, _⟩ := Check.identifier_eq_valid.mp isText
    obtain ⟨_, foundType, isLogical⟩ := Check.required_eq_valid.mp isType
    obtain ⟨givenType, typeIn⟩ := exists_given_type isLogical
    have givenNullable : ∃ given : Option Bool, Json.get? "nullable" (.object members) = given.map .boolean := by
      rcases Check.defaulted_eq_valid.mp isNullable with ⟨absent, _⟩ | ⟨_, found, isFlag⟩
      · exact ⟨none, absent⟩
      · exact ⟨some nullable, by rw [found, Check.flag_eq_valid.mp isFlag]; rfl⟩
    have givenRole : ∃ given : Option Role,
        Json.get? "role" (.object members) = given.map fun role => .string role.name := by
      rcases Check.defaulted_eq_valid.mp isRole with ⟨absent, _⟩ | ⟨_, found, isChoice⟩
      · exact ⟨none, absent⟩
      · obtain ⟨s, rfl, isRole⟩ := Check.choice_eq_valid.mp isChoice
        exact ⟨some role, by rw [found, role_of_choice isRole]; rfl⟩
    obtain ⟨givenNullable, nullableIn⟩ := givenNullable
    obtain ⟨givenRole, roleIn⟩ := givenRole
    exact ⟨⟨name, givenType, givenNullable, givenRole⟩, foundName, ⟨_, foundType, typeIn⟩, nullableIn, roleIn⟩
  | _ => simp [Column.check, Check.wrongKind, Checked.refuse] at valid

theorem exists_given_columns {js : List Json} {columns : List Column}
    (each : List.Forall₂ (fun j column => ∃ place, Column.check place j = .valid column) js columns) :
    ∃ givens, List.Forall₂ GivenColumn.In givens js := by
  induction each with
  | nil => exact ⟨[], .nil⟩
  | cons first _ ih =>
    obtain ⟨_, valid⟩ := first
    obtain ⟨given, isIn⟩ := exists_given_column valid
    obtain ⟨givens, areIn⟩ := ih
    exact ⟨given :: givens, .cons isIn areIn⟩

theorem exists_given {path : List String} {j : Json} {schema : TableSchema}
    (valid : TableSchema.checkMembers path j = .valid schema) : ∃ given : GivenSchema, given.In j := by
  cases j with
  | object members =>
    obtain ⟨f, columns, named, areColumns, rfl⟩ := Checked.ap_eq_valid.mp valid
    obtain ⟨g, table, first, isTable, rfl⟩ := Checked.ap_eq_valid.mp named
    obtain ⟨_, keyspace, made, isKeyspace, rfl⟩ := Checked.ap_eq_valid.mp first
    obtain ⟨_, foundKeyspace, keyspaceText⟩ := Check.required_eq_valid.mp isKeyspace
    obtain ⟨rfl, _⟩ := Check.identifier_eq_valid.mp keyspaceText
    obtain ⟨_, foundTable, tableText⟩ := Check.required_eq_valid.mp isTable
    obtain ⟨rfl, _⟩ := Check.identifier_eq_valid.mp tableText
    obtain ⟨_, foundColumns, isList⟩ := Check.required_eq_valid.mp areColumns
    obtain ⟨js, rfl, each⟩ := Check.list_eq_valid isList
    obtain ⟨givens, areIn⟩ := exists_given_columns each
    exact ⟨⟨keyspace, table, givens⟩, foundKeyspace, foundTable, js, foundColumns, areIn⟩
  | _ => simp [TableSchema.checkMembers, Check.wrongKind, Checked.refuse] at valid

end CqlTable
