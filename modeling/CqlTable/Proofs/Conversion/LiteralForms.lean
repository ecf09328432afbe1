import CqlTable.Proofs.Conversion.Integers
import CqlTable.Proofs.Conversion.Null
import CqlTable.Proofs.Number.Grammar

/-!
# The forms of literals

Each type has one form of literals (`LogicalType.Writes`), stated apart from the
encoders: digits, numbers of a grammar, hexadecimal digits, one of two words, or
a string in which quotes come in pairs. Whatever value is encoded, its literal
has the form of the type that it is encoded as, or it is the word for null
(`literal_of_its_type`).
-/

namespace CqlTable

open Text Number Calendar

/-! ## Forms -/

/-- The word of a number that is not finite, or a number of the grammar, which is
    what the reader of numbers accepts (`isSome_ofText_iff`). -/
def IsFloatingText (text : String) : Prop :=
  text = "NaN" ∨ text = "Infinity" ∨ text = "-Infinity" ∨ IsNumber text.toList

/-- A zero, a small letter and an even number of hexadecimal digits with small
    letters. -/
def IsBlobText (text : String) : Prop :=
  ∃ ds, text.toList = '0' :: 'x' :: ds ∧ Even ds.length ∧ ∀ c ∈ ds, ('0' ≤ c ∧ c ≤ '9') ∨ ('a' ≤ c ∧ c ≤ 'f')

/-- Each run of quotes that no quote stands before or after is of even length. -/
def EvenQuotes (cs : List Char) : Prop :=
  ∀ before count after, cs = before ++ (List.replicate count '\'' ++ after) → before.getLast? ≠ some '\'' →
    after.head? ≠ some '\'' → Even count

/-- A string whose inside has the property. -/
def IsString (inside : List Char → Prop) (text : String) : Prop :=
  ∃ cs, text.toList = '\'' :: (cs ++ ['\'']) ∧ inside cs

/-- The form of the literals of a type that are not null. -/
def LogicalType.Writes : LogicalType → String → Prop
  | integer _, text | timestamp, text => ∃ n, IsCanonical text n
  | floating _, text => IsFloatingText text
  | decimal _, text => IsDecimal text.toList
  | blob _, text => IsBlobText text
  | boolean, text => text = "true" ∨ text = "false"
  | date, text | time, text => IsString (fun inside => '\'' ∉ inside) text
  | textual _, text | other _, text => IsString EvenQuotes text

/-! ## Numbers -/

theorem isFloatingText_nonFinite (d : Double) : IsFloatingText d.nonFiniteText := by
  unfold Double.nonFiniteText
  split
  · exact .inl rfl
  · split
    · exact .inr (.inr (.inl rfl))
    · exact .inr (.inl rfl)

theorem isFloatingText_text (d : Double) : IsFloatingText d.text := by
  cases d with
  | nan => exact isFloatingText_nonFinite .nan
  | infinite negative => exact isFloatingText_nonFinite (.infinite negative)
  | finite negative mantissa exponent fits => exact .inr (.inr (.inr (Double.isNumber_text rfl)))

theorem isFloatingText_generalText {count : Nat} (counted : count ≤ 21) (d : Double) :
    IsFloatingText (d.generalText count) := by
  cases d with
  | nan => exact isFloatingText_nonFinite .nan
  | infinite negative => exact isFloatingText_nonFinite (.infinite negative)
  | finite negative mantissa exponent fits => exact .inr (.inr (.inr (Double.isNumber_generalText counted rfl)))

/-! ## Bytes -/

theorem isBlobText_hex (bytes : Bytes) : IsBlobText ("0x" ++ hex bytes) := by
  have digits : ∀ n < 16, ('0' ≤ hexDigit n ∧ hexDigit n ≤ '9') ∨ ('a' ≤ hexDigit n ∧ hexDigit n ≤ 'f') := by decide
  refine ⟨hexChars bytes, by simp [hex], by simp [length_hexChars], ?_⟩
  intro c inside
  obtain ⟨n, small, rfl⟩ := exists_hexDigit inside
  exact digits n small

/-! ## Strings -/

theorem isString_quoted {inside : List Char → Prop} {text : String} (holds : inside (doubleQuotes text.toList)) :
    IsString inside (Literal.quoted text).text :=
  ⟨doubleQuotes text.toList, by simp [Literal.text, escape], holds⟩

/-- Where each quote is written twice, no run of quotes has an odd length. -/
theorem evenQuotes_doubleQuotes (cs : List Char) : EvenQuotes (doubleQuotes cs) := by
  induction cs with
  | nil =>
    intro before count after split _ _
    have lengths := congrArg List.length split
    simp only [doubleQuotes, List.length_nil, List.length_append, List.length_replicate] at lengths
    have none : count = 0 := by omega
    simp [none]
  | cons c rest ih =>
    intro before count after split apart ends
    by_cases quote : c = '\''
    · rw [doubleQuotes, if_pos quote] at split
      cases before with
      | nil =>
        -- The run begins here: it has the pair of this quote, and goes on in the rest.
        rcases count with _ | _ | count
        · have first : '\'' :: '\'' :: doubleQuotes rest = after := split
          exact absurd (by rw [← first]; rfl) ends
        · have second : '\'' :: doubleQuotes rest = after := (List.cons.inj split).2
          exact absurd (by rw [← second]; rfl) ends
        · have later : doubleQuotes rest = [] ++ (List.replicate count '\'' ++ after) :=
            (List.cons.inj (List.cons.inj split).2).2
          exact (ih [] count after later (by simp) ends).add even_two
      | cons first before =>
        obtain ⟨rfl, same⟩ := List.cons.inj split
        cases before with
        | nil => exact absurd rfl apart
        | cons second before =>
          obtain ⟨rfl, later⟩ := List.cons.inj same
          cases before with
          | nil => exact absurd rfl apart
          | cons third before => exact ih _ count after later (by simpa using apart) ends
    · rw [doubleQuotes, if_neg quote] at split
      cases before with
      | nil =>
        cases count with
        | zero => exact Even.zero
        | succ count => exact absurd (List.cons.inj split).1 quote
      | cons first before =>
        obtain ⟨rfl, later⟩ := List.cons.inj split
        refine ih before count after later ?_ ends
        cases before with
        | nil => simp
        | cons second before => simpa using apart

theorem isString_evenQuotes (text : String) : IsString EvenQuotes (Literal.quoted text).text :=
  isString_quoted (evenQuotes_doubleQuotes _)

theorem not_quote_of_token {cs : List Char} (all : ∀ c ∈ cs, isTokenChar c = true) : '\'' ∉ cs :=
  fun inside => absurd (all _ inside) (by decide)

theorem doubleQuotes_of_none {cs : List Char} (none : '\'' ∉ cs) : doubleQuotes cs = cs := by
  induction cs with
  | nil => rfl
  | cons c rest ih =>
    simp only [List.mem_cons, not_or] at none
    rw [doubleQuotes, if_neg (Ne.symm none.1), ih none.2]

theorem isString_of_no_quote {text : String} (none : '\'' ∉ text.toList) :
    IsString (fun inside => '\'' ∉ inside) (Literal.quoted text).text := by
  apply isString_quoted
  rwa [doubleQuotes_of_none none]

/-! ## Dates and times -/

theorem signedPadded_no_quote (width : Nat) (i : Int) : '\'' ∉ (signedPadded width i).toList := by
  rw [toList_signed]
  apply not_quote_of_token
  refine List.forall_mem_append.mpr ⟨?_, fun c inside => isTokenChar_of_isDigit (padDigits_digits _ _ c inside)⟩
  split
  · exact List.forall_mem_singleton.mpr (by decide)
  · simp

/-- A year of any size is written without a quote, also one with an exponent. -/
theorem paddedNumber_no_quote (width : Nat) (year : Double) : '\'' ∉ (paddedNumber width year).toList := by
  rw [paddedNumber, String.toList_append, String.toList_ofList]
  apply not_quote_of_token
  refine List.forall_mem_append.mpr ⟨?_, (isWord_padZeros width (isWord_text year.abs)).2⟩
  split
  · exact List.forall_mem_singleton.mpr (by decide)
  · simp

theorem dateText_no_quote {year : String} (none : '\'' ∉ year.toList) (month day : Int) :
    '\'' ∉ (dateText year month day).toList := by
  simp [dateText, none, signedPadded_no_quote]

theorem timeText_no_quote (time : TimeOfDay) : '\'' ∉ (timeText time).toList := by
  simp [timeText, signedPadded_no_quote]

/-! ## All types -/

variable {zone : Zone} {type : LogicalType} {literal : Literal}

theorem writes_of_isOf (isOf : literal.IsOf type) : type.Writes literal.text := by
  cases isOf with
  | integer kind i => exact ⟨i, isCanonical_integer i⟩
  | float d => exact isFloatingText_generalText singleDigits_le d
  | double d => exact isFloatingText_text d
  | decimal scale isDecimal => exact isDecimal_of_text isDecimal
  | hex length bytes => exact isBlobText_hex bytes
  | truth b =>
    cases b with
    | false => exact .inr rfl
    | true => exact .inl rfl
  | instant i => exact ⟨i, isCanonical_integer i⟩
  | day year month day => exact isString_of_no_quote (dateText_no_quote (paddedNumber_no_quote _ _) _ _)
  | time time => exact isString_of_no_quote (timeText_no_quote time)
  | textual kind text => exact isString_evenQuotes text
  | other name text => exact isString_evenQuotes text

/-- The characters that a literal which is no string cannot have: quotes,
    blanks, and the marks around literals. -/
def EndsLiteral (c : Char) : Prop := c = '\'' ∨ isBlank c = true ∨ c = ',' ∨ c = '(' ∨ c = ')' ∨ c = ';'

theorem not_endsLiteral_of_token {c : Char} (token : isTokenChar c = true) : ¬ EndsLiteral c := by
  rintro (rfl | blank | rfl | rfl | rfl | rfl)
  · exact absurd token (by decide)
  · rw [not_isBlank_of_isTokenChar token] at blank
    cases blank
  all_goals exact absurd token (by decide)

theorem not_endsLiteral_of_isPlain (plain : literal.IsPlain) (unquoted : literal.text.toList.head? ≠ some '\'') :
    ∀ c ∈ literal.text.toList, ¬ EndsLiteral c := by
  cases literal with
  | null =>
    have word : IsWord "NULL".toList := by decide
    exact fun c inside => not_endsLiteral_of_token (word.2 c inside)
  | bare text => exact fun c inside => not_endsLiteral_of_token (plain.2 c inside)
  | quoted text => exact absurd (by simp [Literal.text]) unquoted

/-- What any value is encoded as is one literal of the type. It is the word for
    null exactly when the value is null or missing, and otherwise it has the form
    of the type; and where it is no string, it has no quote, no blank and no mark
    that could end it. -/
theorem literal_of_its_type {value : Value} (encoded : encode zone type value = .ok literal) :
    (literal.text = "NULL" ↔ value.isNull = true) ∧
      (value.isNull = false → type.Writes literal.text) ∧
      (literal.text.toList.head? ≠ some '\'' → ∀ c ∈ literal.text.toList, ¬ EndsLiteral c) := by
  refine ⟨null_text_iff encoded, ?_, not_endsLiteral_of_isPlain (isPlain_encode encoded)⟩
  intro some
  cases value with
  | missing | null => cases some
  | scalar s => exact writes_of_isOf (isOf_encodeScalar encoded)

/-- A text with two quotes and marks after them, and fields before the epoch
    that have no time of day. -/
theorem literals_of_their_types :
    let day : Fields := [Fields.entry "year" 1969, Fields.entry "month" 12, Fields.entry "day" 31]
    encode .utc (.textual .text) (.scalar (.text "it''s, (7)")) = .ok (.quoted "it''s, (7)") ∧
      IsString EvenQuotes "'it''''s, (7)'" ∧
      encode .utc .timestamp (.scalar (.fields day)) = .ok (.bare "-86400000") ∧
      (∃ n, IsCanonical "-86400000" n) ∧ ∀ c ∈ "-86400000".toList, ¬ EndsLiteral c := by
  intro day
  have text : encode .utc (.textual .text) (.scalar (.text "it''s, (7)")) = .ok (.quoted "it''s, (7)") := rfl
  have fields : encode .utc .timestamp (.scalar (.fields day)) = .ok (.bare "-86400000") := by decide +kernel
  obtain ⟨-, isString, -⟩ := literal_of_its_type text
  obtain ⟨-, isInteger, inside⟩ := literal_of_its_type fields
  exact ⟨text, isString rfl, fields, isInteger rfl, inside (by decide)⟩

end CqlTable
