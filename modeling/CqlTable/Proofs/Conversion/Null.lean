import CqlTable.Conversion.Decode
import CqlTable.Proofs.Conversion.Literals

/-!
# Null: which texts stand for it

A cell is null for the word and for the empty text alone. A number begins with
a sign, a digit or a point, so no value that is not null is written as the word
(`null_text_iff`).
-/

namespace CqlTable

open Text Number

/-- The text stands for null as a cell. -/
def MarksNull (text : String) : Prop := text = "NULL" ∨ text = ""

instance (text : String) : Decidable (MarksNull text) := inferInstanceAs (Decidable (_ ∨ _))

theorem decode_eq_none_iff {type : LogicalType} {text : String} : decode type text = .ok none ↔ MarksNull text := by
  unfold decode MarksNull
  by_cases null : text = "NULL" ∨ text = ""
  · simp [null]
  · simp [null, map_eq_ok]

theorem decode_of_not_marksNull {type : LogicalType} {text : String} (notNull : ¬ MarksNull text) :
    decode type text = (decodeScalar type text).map some :=
  if_neg notNull

/-! ## Beginnings unlike the word -/

/-- The text is not empty, and it begins unlike the word for null. -/
def BeginsUnlike (cs : List Char) : Prop := ∃ c rest, cs = c :: rest ∧ c ≠ 'N'

theorem not_marksNull_of_begins {text : String} (begins : BeginsUnlike text.toList) : ¬ MarksNull text := by
  obtain ⟨c, rest, chars, first⟩ := begins
  rintro (rfl | rfl)
  · cases chars
    exact first rfl
  · cases chars

theorem begins_digit {c : Char} (digit : isDigit c = true) (rest : List Char) : BeginsUnlike (c :: rest) := by
  refine ⟨c, rest, rfl, ?_⟩
  rintro rfl
  exact absurd digit (by decide)

theorem begins_digits {ds : List Char} (digits : ∀ c ∈ ds, isDigit c = true) (nonempty : ds ≠ []) :
    BeginsUnlike ds := by
  obtain ⟨c, rest, rfl⟩ := List.exists_cons_of_ne_nil nonempty
  exact begins_digit (digits c (by simp)) rest

theorem begins_numeralChars (n : Nat) : BeginsUnlike (numeralChars n) :=
  begins_digits (numeralChars_digits n) (numeralChars_ne_nil n)

theorem BeginsUnlike.append {cs : List Char} (begins : BeginsUnlike cs) (after : List Char) :
    BeginsUnlike (cs ++ after) := by
  obtain ⟨c, rest, rfl, first⟩ := begins
  exact ⟨c, rest ++ after, rfl, first⟩

theorem begins_integer (i : Int) : BeginsUnlike (Text.integer i).toList := by
  rw [Text.integer, String.toList_ofList]
  cases i with
  | ofNat n => exact begins_numeralChars n
  | negSucc n => exact ⟨'-', _, rfl, by decide⟩

theorem begins_of_significand {cs digits : List Char} {places : Nat}
    (significand : Significand cs digits places) : BeginsUnlike cs := by
  obtain ⟨nonempty, chars⟩ := significand.chars
  obtain ⟨c, rest, rfl⟩ := List.exists_cons_of_ne_nil nonempty
  refine ⟨c, rest, rfl, ?_⟩
  rintro rfl
  rcases chars 'N' (by simp) with digit | point
  · exact absurd digit (by decide)
  · exact absurd point (by decide)

theorem begins_of_isNumber {cs : List Char} (number : IsNumber cs) : BeginsUnlike cs := by
  obtain ⟨signed, significand, exponent⟩ := number
  cases signed with
  | absent => exact (begins_of_significand significand).append _
  | plus => exact ⟨'+', _, rfl, by decide⟩
  | minus => exact ⟨'-', _, rfl, by decide⟩

/-! ## Values that are not null -/

theorem not_marksNull_nonFinite (d : Double) : ¬ MarksNull d.nonFiniteText := by
  unfold Double.nonFiniteText
  split
  · decide
  · split <;> decide

theorem not_marksNull_text (d : Double) : ¬ MarksNull d.text := by
  cases d with
  | nan => exact not_marksNull_nonFinite .nan
  | infinite negative => exact not_marksNull_nonFinite (.infinite negative)
  | finite negative mantissa exponent fits =>
    exact not_marksNull_of_begins (begins_of_isNumber (Double.isNumber_text rfl))

theorem not_marksNull_generalText {count : Nat} (counted : count ≤ 21) (d : Double) :
    ¬ MarksNull (d.generalText count) := by
  cases d with
  | nan => exact not_marksNull_nonFinite .nan
  | infinite negative => exact not_marksNull_nonFinite (.infinite negative)
  | finite negative mantissa exponent fits =>
    exact not_marksNull_of_begins (begins_of_isNumber (Double.isNumber_generalText counted rfl))

theorem not_marksNull_bare {text : String} (isBare : BareText text) : ¬ MarksNull text := by
  cases isBare with
  | integer i => exact not_marksNull_of_begins (begins_integer i)
  | double d => exact not_marksNull_text d
  | general counted d => exact not_marksNull_generalText counted d
  | decimal isDecimal =>
    rintro (rfl | rfl)
    · exact absurd isDecimal (by decide)
    · exact absurd isDecimal (by decide)
  | hex bytes => exact not_marksNull_of_begins ⟨'0', 'x' :: hexChars bytes, by simp [Text.hex], by decide⟩
  | truth b => cases b <;> decide

/-- No value that is not null is written as the word for null. -/
theorem written_text_ne_null {literal : Literal} (written : literal.IsWritten) : literal.text ≠ "NULL" := by
  cases written with
  | bare isBare => exact fun null => not_marksNull_bare isBare (Or.inl null)
  | quoted text =>
    intro null
    have chars := congrArg String.toList null
    simp [Literal.text] at chars

/-- The literal of a value is the word for null when the value is null. -/
theorem null_text_iff {zone : Calendar.Zone} {type : LogicalType} {value : Value} {literal : Literal}
    (encoded : encode zone type value = .ok literal) : literal.text = "NULL" ↔ value.isNull = true := by
  cases value with
  | missing =>
    cases encoded
    simp [Literal.text, Value.isNull]
  | null =>
    cases encoded
    simp [Literal.text, Value.isNull]
  | scalar s => simpa [Value.isNull] using written_text_ne_null (written_encodeScalar encoded)

end CqlTable
