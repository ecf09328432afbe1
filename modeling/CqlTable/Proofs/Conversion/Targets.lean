import CqlTable.Proofs.Conversion.Basic
import CqlTable.Proofs.Text.Numerals

/-!
# Targets: the type that an error names

Encoders hand scalars on to one another and to readers, and an error keeps the
type of the one that failed. That is the type that was asked for, but for
timestamps given as a count of milliseconds: these are encoded as integers of
sixty-four bits, and an error names that type (`errors_name_type`).
-/

namespace CqlTable

open Calendar Text

variable {α β : Type} {type : LogicalType} {conversion : Conversion α}

/-! ## Errors of a type -/

/-- Where a conversion fails, its error names the type. -/
def FailsAs (type : LogicalType) (conversion : Conversion α) : Prop :=
  ∀ e, conversion = .error e → e.target = .type type

theorem failsAs_ok (a : α) : FailsAs type (.ok a : Conversion α) := nofun

theorem failsAs_outOfRange (input : String) : FailsAs type (outOfRange type input : Conversion α) := by
  rintro _ ⟨⟩
  rfl

theorem failsAs_malformed (input : String) : FailsAs type (malformed type input : Conversion α) := by
  rintro _ ⟨⟩
  rfl

theorem failsAs_unencodable (input : String) : FailsAs type (unencodable type input : Conversion α) := by
  rintro _ ⟨⟩
  rfl

theorem FailsAs.map (fails : FailsAs type conversion) (f : α → β) : FailsAs type (conversion.map f) :=
  fun e refused => fails e (map_eq_error.mp refused)

theorem FailsAs.label (fails : FailsAs type conversion) {e : ConversionError} (refused : conversion = .error e) :
    e.target.label = type.label := by
  rw [fails e refused]
  rfl

/-! ## Numbers -/

theorem failsAs_readInteger (kind : IntegerKind) (text : String) : FailsAs (.integer kind) (readInteger kind text) := by
  unfold readInteger
  split
  · exact failsAs_malformed text
  · split
    · exact failsAs_ok _
    · exact failsAs_outOfRange text

theorem failsAs_encodeInteger (kind : IntegerKind) (s : Scalar) : FailsAs (.integer kind) (encodeInteger kind s) := by
  have literal (i : Int) : FailsAs (.integer kind) (integerLiteral kind i) := by
    unfold integerLiteral
    split
    · exact failsAs_ok _
    · exact failsAs_outOfRange _
  unfold encodeInteger
  split
  · exact literal _
  · split
    · exact literal _
    · exact failsAs_malformed _
  · exact (failsAs_readInteger kind _).map _
  · exact failsAs_unencodable _

theorem failsAs_readFloating (kind : FloatKind) (text : String) : FailsAs (.floating kind) (readFloating kind text) := by
  unfold readFloating
  simp only []
  split
  · exact failsAs_ok _
  · split
    · exact failsAs_malformed text
    · split
      all_goals split
      all_goals first | exact failsAs_ok _ | exact failsAs_outOfRange text

theorem failsAs_floatingValue (kind : FloatKind) (s : Scalar) : FailsAs (.floating kind) (floatingValue kind s) := by
  unfold floatingValue
  split
  · exact failsAs_ok _
  · exact failsAs_ok _
  · exact failsAs_readFloating kind _
  · exact failsAs_unencodable _

theorem failsAs_encodeFloating (kind : FloatKind) (s : Scalar) :
    FailsAs (.floating kind) (encodeFloating kind s) := by
  unfold encodeFloating
  split
  · rename_i e refused
    rintro _ ⟨⟩
    exact failsAs_floatingValue kind s e refused
  · split
    · split
      · exact failsAs_outOfRange _
      · exact failsAs_ok _
    · exact failsAs_ok _

theorem failsAs_encodeDecimal (scale : Nat) (s : Scalar) : FailsAs (.decimal scale) (encodeDecimal scale s) := by
  have written (text : String) : FailsAs (.decimal scale) (if isDecimalText text.toList then .ok (.bare text)
      else malformed (.decimal scale) text : Conversion Literal) := by
    split
    · exact failsAs_ok _
    · exact failsAs_malformed text
  unfold encodeDecimal
  split
  · exact written _
  · exact written _
  · split
    · exact written _
    · exact failsAs_unencodable _
  · exact failsAs_unencodable _

/-! ## Text, bytes and truth values -/

theorem failsAs_encodeText (type : LogicalType) (s : Scalar) : FailsAs type (encodeText type s) := by
  cases s with
  | instant | invalidInstant | fields => exact failsAs_unencodable _
  | _ => exact failsAs_ok _

theorem failsAs_encodeBlob (length : Option Nat) (s : Scalar) : FailsAs (.blob length) (encodeBlob length s) := by
  unfold encodeBlob
  split
  · split
    · exact failsAs_outOfRange _
    · exact failsAs_ok _
  · exact failsAs_unencodable _

theorem failsAs_encodeBoolean (s : Scalar) : FailsAs .boolean (encodeBoolean s) := by
  cases s with
  | boolean | number | bigint => exact failsAs_ok _
  | _ => exact failsAs_unencodable _

/-! ## Dates and times -/

theorem failsAs_dateLiteral (members : Fields) (shown : String) : FailsAs .date (dateLiteral members shown) := by
  unfold dateLiteral
  split
  · exact failsAs_ok _
  · exact failsAs_outOfRange _

theorem failsAs_encodeDate (zone : Zone) (s : Scalar) : FailsAs .date (encodeDate zone s) := by
  unfold encodeDate
  split
  · exact failsAs_dateLiteral _ _
  · exact failsAs_malformed _
  · split
    · exact failsAs_dateLiteral _ _
    · exact failsAs_unencodable _
  · exact failsAs_unencodable _

theorem failsAs_timeLiteral (members : Fields) (shown : String) : FailsAs .time (timeLiteral members shown) := by
  unfold timeLiteral
  split
  · exact failsAs_ok _
  · exact failsAs_outOfRange _

theorem failsAs_encodeTime (zone : Zone) (s : Scalar) : FailsAs .time (encodeTime zone s) := by
  unfold encodeTime
  split
  · exact failsAs_timeLiteral _ _
  · exact failsAs_malformed _
  · split
    · exact failsAs_timeLiteral _ _
    · exact failsAs_unencodable _
  · exact failsAs_unencodable _

/-- The value is a count: a number, an integer or a text that spells an
    integer. -/
inductive Value.IsCount : Value → Prop
  | number (d : Double) : IsCount (.scalar (.number d))
  | bigint (i : Int) : IsCount (.scalar (.bigint i))
  | text {text : String} {i : Int} (spelled : SpellsInteger text i) : IsCount (.scalar (.text text))

/-- A count of milliseconds is refused as an integer. -/
theorem failsAs_encodeTimestamp_count (zone : Zone) {s : Scalar} (count : Value.IsCount (.scalar s)) :
    FailsAs (.integer .bigint) (encodeTimestamp zone s) := by
  cases count with
  | number d => exact failsAs_encodeInteger .bigint (.number d)
  | bigint i => exact failsAs_encodeInteger .bigint (.bigint i)
  | text spelled =>
    simp only [encodeTimestamp, integerValue_spelled spelled]
    exact failsAs_encodeInteger .bigint _

theorem failsAs_encodeTimestamp (zone : Zone) {s : Scalar} (other : ¬ Value.IsCount (.scalar s)) :
    FailsAs .timestamp (encodeTimestamp zone s) := by
  unfold encodeTimestamp
  split
  · exact failsAs_ok _
  · exact failsAs_malformed _
  · exact absurd (.number _) other
  · exact absurd (.bigint _) other
  · rename_i text
    simp only []
    split
    · rename_i i read
      exact absurd (.text (spells_of_integerValue read)) other
    · split
      · exact failsAs_ok _
      · exact failsAs_malformed text
  · split
    · split
      · split
        · exact failsAs_outOfRange _
        · exact failsAs_ok _
      · exact failsAs_outOfRange _
    · exact failsAs_unencodable _
  · exact failsAs_unencodable _

/-! ## All types -/

theorem failsAs_encode (zone : Zone) {value : Value} (other : type = .timestamp → ¬ value.IsCount) :
    FailsAs type (encode zone type value) := by
  cases value with
  | missing => exact failsAs_ok _
  | null => exact failsAs_ok _
  | scalar s =>
    show FailsAs type (encodeScalar zone type s)
    cases type with
    | integer kind => exact failsAs_encodeInteger kind s
    | floating kind => exact failsAs_encodeFloating kind s
    | decimal scale => exact failsAs_encodeDecimal scale s
    | blob length => exact failsAs_encodeBlob length s
    | date => exact failsAs_encodeDate zone s
    | time => exact failsAs_encodeTime zone s
    | timestamp => exact failsAs_encodeTimestamp zone (other rfl)
    | boolean => exact failsAs_encodeBoolean s
    | textual kind => exact failsAs_encodeText _ s
    | other name => exact failsAs_encodeText _ s

theorem failsAs_encode_count (zone : Zone) {value : Value} (count : value.IsCount) :
    FailsAs (.integer .bigint) (encode zone .timestamp value) := by
  cases value with
  | missing | null => cases count
  | scalar s => exact failsAs_encodeTimestamp_count zone count

theorem failsAs_decodeBlob (length : Option Nat) (text : String) : FailsAs (.blob length) (decodeBlob length text) := by
  unfold decodeBlob
  split
  · exact failsAs_ok _
  · exact failsAs_malformed text

theorem failsAs_decodeDate (text : String) : FailsAs .date (decodeDate text) := by
  unfold decodeDate
  simp only []
  split
  · split
    · exact failsAs_ok _
    · exact failsAs_outOfRange text
  · exact failsAs_malformed text

theorem failsAs_decodeTime (text : String) : FailsAs .time (decodeTime text) := by
  unfold decodeTime
  split
  · simp only []
    split
    · exact failsAs_ok _
    · exact failsAs_outOfRange text
  · exact failsAs_malformed text

theorem failsAs_decodeTimestamp (text : String) : FailsAs .timestamp (decodeTimestamp text) := by
  unfold decodeTimestamp
  split
  · exact failsAs_ok _
  · split
    · exact failsAs_outOfRange text
    · exact failsAs_ok _

theorem failsAs_decodeScalar (type : LogicalType) (text : String) : FailsAs type (decodeScalar type text) := by
  cases type with
  | integer kind => exact (failsAs_readInteger kind text).map _
  | floating kind => exact (failsAs_readFloating kind text).map _
  | blob length => exact failsAs_decodeBlob length text
  | date => exact failsAs_decodeDate text
  | time => exact failsAs_decodeTime text
  | timestamp => exact failsAs_decodeTimestamp text
  | _ => exact failsAs_ok _

theorem failsAs_decode (type : LogicalType) (text : String) : FailsAs type (decode type text) := by
  unfold decode
  split
  · exact failsAs_ok _
  · exact (failsAs_decodeScalar type text).map _

/-- An error of encoding names the type that was asked for, unless a timestamp
    was given as a count; then it names the type of large integers. An error of
    decoding always names the type that was asked for. -/
theorem errors_name_type (type : LogicalType) :
    (∀ zone value e, encode zone type value = .error e →
      (e.target.label = type.label ↔ ¬ (type = .timestamp ∧ value.IsCount)) ∧
      (type = .timestamp ∧ value.IsCount → e.target.label = "bigint")) ∧
    ∀ text e, decode type text = .error e → e.target.label = type.label := by
  refine ⟨fun zone value e refused => ?_, fun text e refused => (failsAs_decode type text).label refused⟩
  by_cases count : type = .timestamp ∧ value.IsCount
  · obtain ⟨rfl, isCount⟩ := count
    have label : e.target.label = "bigint" := (failsAs_encode_count zone isCount).label refused
    have apart : e.target.label ≠ LogicalType.label .timestamp := by
      rw [label]
      decide
    exact ⟨iff_of_false apart (not_not.mpr ⟨rfl, isCount⟩), fun _ => label⟩
  · have asked : FailsAs type (encode zone type value) :=
      failsAs_encode zone fun same isCount => count ⟨same, isCount⟩
    exact ⟨iff_of_true (asked.label refused) count, fun given => absurd given count⟩

/-- A text of no integer in a column of integers, and the same text of a large
    integer in a column of timestamps, written and read. -/
theorem large_count_named :
    (∃ e, encode .utc (.integer .int) (.scalar (.text "2024-01")) = .error e ∧ e.target.label = "int") ∧
    (∃ e, encode .utc .timestamp (.scalar (.text "9223372036854775808")) = .error e ∧ e.target.label = "bigint") ∧
    ∃ e, decode .timestamp "9223372036854775808" = .error e ∧ e.target.label = "timestamp" := by
  have word : encode .utc (.integer .int) (.scalar (.text "2024-01")) =
      .error ⟨.malformed, .type (.integer .int), "2024-01", none⟩ := by
    decide +kernel
  have written : encode .utc .timestamp (.scalar (.text "9223372036854775808")) =
      .error ⟨.outOfRange, .type (.integer .bigint), "9223372036854775808", none⟩ := by
    decide +kernel
  have read : decode .timestamp "9223372036854775808" =
      .error ⟨.outOfRange, .type .timestamp, "9223372036854775808", none⟩ := by
    decide +kernel
  have count : Value.IsCount (.scalar (.text "9223372036854775808")) :=
    .text (i := 9223372036854775808) (spells_of_integerValue (by decide +kernel))
  refine ⟨⟨_, word, ?_⟩, ⟨_, written, ?_⟩, ⟨_, read, (errors_name_type .timestamp).2 _ _ read⟩⟩
  · exact ((errors_name_type (.integer .int)).1 _ _ _ word).1.mpr fun given => nomatch given.1
  · exact ((errors_name_type .timestamp).1 _ _ _ written).2 ⟨rfl, count⟩

/-- An integer past sixty-four bits is refused by a column of timestamps with
    the name of another type. -/
theorem timestamp_error_names_bigint :
    encode .utc .timestamp (.scalar (.bigint 9223372036854775808)) =
        .error ⟨.outOfRange, .type (.integer .bigint), "9223372036854775808", none⟩ ∧
    ¬ ∀ (type : LogicalType) (value : Value) (e : ConversionError),
      encode .utc type value = .error e → e.target.label = type.label := by
  have refused : encode .utc .timestamp (.scalar (.bigint 9223372036854775808)) =
      .error ⟨.outOfRange, .type (.integer .bigint), "9223372036854775808", none⟩ := by
    decide +kernel
  refine ⟨refused, fun always => ?_⟩
  exact absurd (always _ _ _ refused) (by decide)

end CqlTable
