import CqlTable.Proofs.Conversion.Basic
import CqlTable.Proofs.Conversion.Timestamps
import CqlTable.Proofs.Statement.Words
import CqlTable.Proofs.Text.Hex

/-!
# Literals: each is one token of a statement

Whatever a value is, it is encoded as one of the literals of the type
(`isOf_encodeScalar`). What is written without quotes is one word, and what is
written between quotes is one string (`isPlain_encode`).
-/

namespace CqlTable

open Text Number Calendar

/-! ## Literals as tokens -/

/-- The token that a literal is. -/
def Literal.token : Literal → Token
  | null => .word "NULL"
  | bare text => .word text
  | quoted text => .quoted (escape text)

/-- What is written without quotes is a word. -/
def Literal.IsPlain : Literal → Prop
  | bare text => IsWord text.toList
  | null | quoted _ => True

theorem token_text (literal : Literal) : literal.token.text = literal.text := by
  cases literal <;> rfl

theorem token_isLiteral (literal : Literal) : literal.token.IsLiteral := by
  cases literal <;> trivial

theorem reads_literal {literal : Literal} (plain : literal.IsPlain) : Reads literal.text [literal.token] := by
  cases literal with
  | null => exact reads_word (by decide)
  | bare text => exact reads_word plain
  | quoted text => exact reads_quoted text

/-! ## Decimal text -/

/-- Digits after an optional minus sign, with an optional fraction of at least
    one digit and an optional exponent. -/
inductive IsDecimal : List Char → Prop
  | parts {sign whole fraction exponent : List Char} {e : Int} (signed : sign = [] ∨ sign = ['-'])
      (digits : Digits whole) (places : fraction = [] ∨ ∃ ds, Digits ds ∧ fraction = '.' :: ds)
      (isExponent : Exponent exponent e) : IsDecimal (sign ++ (whole ++ (fraction ++ exponent)))

theorem isDecimal_unsigned {sign cs : List Char} (signed : sign = [] ∨ sign = ['-'])
    (decimal : (match takeDigits cs with
      | ([], _) => false
      | (_, '.' :: rest) =>
        match takeDigits rest with
        | ([], _) => false
        | (_, rest) => (exponentPart? rest).isSome
      | (_, rest) => (exponentPart? rest).isSome) = true) : IsDecimal (sign ++ cs) := by
  split at decimal
  · cases decimal
  · rename_i whole after nonempty taken
    obtain ⟨rfl, wholeDigits⟩ := takeDigits_eq taken
    split at decimal
    · cases decimal
    · rename_i ds rest some takenMore
      obtain ⟨rfl, digits⟩ := takeDigits_eq takenMore
      obtain ⟨e, part⟩ := Option.isSome_iff_exists.mp decimal
      show IsDecimal (sign ++ (whole ++ (('.' :: ds) ++ rest)))
      exact .parts signed ⟨nonempty, wholeDigits⟩ (.inr ⟨ds, ⟨some, digits⟩, rfl⟩) (exponent_of_part part)
  · rename_i whole rest nonempty _ taken
    obtain ⟨rfl, wholeDigits⟩ := takeDigits_eq taken
    obtain ⟨e, part⟩ := Option.isSome_iff_exists.mp decimal
    show IsDecimal (sign ++ (whole ++ ([] ++ rest)))
    exact .parts signed ⟨nonempty, wholeDigits⟩ (.inl rfl) (exponent_of_part part)

theorem isDecimal_of_text {cs : List Char} (decimal : isDecimalText cs = true) : IsDecimal cs := by
  unfold isDecimalText at decimal
  split at decimal
  · exact isDecimal_unsigned (.inr rfl) decimal
  · exact isDecimal_unsigned (.inl rfl) decimal

/-- A decimal text is a word. -/
theorem isWord_of_isDecimal {cs : List Char} (decimal : IsDecimal cs) : IsWord cs := by
  cases decimal with
  | @parts sign whole fraction exponent e signed digits places isExponent =>
    have token {ds : List Char} (digits : Digits ds) : ∀ c ∈ ds, isTokenChar c = true :=
      fun c inside => isTokenChar_of_isDigit (digits.2 c inside)
    have signToken : ∀ c ∈ sign, isTokenChar c = true := by
      rcases signed with rfl | rfl
      · simp
      · exact List.forall_mem_singleton.mpr (by decide)
    have fractionToken : ∀ c ∈ fraction, isTokenChar c = true := by
      rcases places with rfl | ⟨ds, digits, rfl⟩
      · simp
      · exact List.forall_mem_cons.mpr ⟨by decide, token digits⟩
    have word : IsWord whole := ⟨digits.1, token digits⟩
    exact (word.append (List.forall_mem_append.mpr ⟨fractionToken, exponent_token isExponent⟩)).after signToken

/-! ## Encoders -/

theorem hexChars_token (bytes : Bytes) : ∀ c ∈ hexChars bytes, isTokenChar c = true := by
  have digits : ∀ n < 16, isTokenChar (hexDigit n) = true := by decide
  intro c inside
  obtain ⟨n, small, rfl⟩ := exists_hexDigit inside
  exact digits n small

/-- Single precision literals have few enough digits to be positional only below
    10^21. -/
theorem singleDigits_le : singleDigits ≤ 21 := by decide

/-- The texts that are written without quotes. -/
inductive BareText : String → Prop
  | integer (i : Int) : BareText (Text.integer i)
  | double (d : Double) : BareText d.text
  | general {count : Nat} (counted : count ≤ 21) (d : Double) : BareText (d.generalText count)
  | decimal {text : String} (isDecimal : isDecimalText text.toList = true) : BareText text
  | hex (bytes : Bytes) : BareText ("0x" ++ Text.hex bytes)
  | truth (b : Bool) : BareText (if b then "true" else "false")

/-- The literals of values that are not null. -/
inductive Literal.IsWritten : Literal → Prop
  | bare {text : String} (isBare : BareText text) : (bare text).IsWritten
  | quoted (text : String) : (quoted text).IsWritten

/-- The literals of a type that stand for values that are not null. -/
inductive Literal.IsOf : LogicalType → Literal → Prop
  | integer (kind : IntegerKind) (i : Int) : IsOf (.integer kind) (bare (Text.integer i))
  | float (d : Double) : IsOf (.floating .float) (bare (d.generalText singleDigits))
  | double (d : Double) : IsOf (.floating .double) (bare d.text)
  | decimal (scale : Nat) {text : String} (isDecimal : isDecimalText text.toList = true) :
      IsOf (.decimal scale) (bare text)
  | hex (length : Option Nat) (bytes : Bytes) : IsOf (.blob length) (bare ("0x" ++ Text.hex bytes))
  | truth (b : Bool) : IsOf .boolean (bare (if b then "true" else "false"))
  | instant (i : Int) : IsOf .timestamp (bare (Text.integer i))
  | day (year : Double) (month day : Int) : IsOf .date (quoted (dateText (paddedNumber 4 year) month day))
  | time (time : TimeOfDay) : IsOf .time (quoted (timeText time))
  | textual (kind : TextKind) (text : String) : IsOf (.textual kind) (quoted text)
  | other (name text : String) : IsOf (.other name) (quoted text)

section Encoders

variable {zone : Zone} {type : LogicalType} {s : Scalar} {literal : Literal}

theorem encodeInteger_eq_ok {kind : IntegerKind} (encoded : encodeInteger kind s = .ok literal) :
    ∃ i, literal = .bare (Text.integer i) := by
  have written {i : Int} (encoded : integerLiteral kind i = .ok literal) : ∃ i, literal = .bare (Text.integer i) := by
    unfold integerLiteral at encoded
    split at encoded
    · cases encoded
      exact ⟨i, rfl⟩
    · cases encoded
  unfold encodeInteger at encoded
  split at encoded
  · exact written encoded
  · split at encoded
    · exact written encoded
    · cases encoded
  · obtain ⟨i, _, rfl⟩ := map_eq_ok.mp encoded
    exact ⟨i, rfl⟩
  · cases encoded

theorem isOf_encodeFloating {kind : FloatKind} (encoded : encodeFloating kind s = .ok literal) :
    literal.IsOf (.floating kind) := by
  unfold encodeFloating at encoded
  split at encoded
  · cases encoded
  · split at encoded
    · split at encoded
      · cases encoded
      · cases encoded
        exact .float _
    · cases encoded
      exact .double _

theorem isOf_encodeDecimal {scale : Nat} (encoded : encodeDecimal scale s = .ok literal) :
    literal.IsOf (.decimal scale) := by
  have written {text : String} (encoded : (if isDecimalText text.toList then .ok (.bare text)
      else malformed (.decimal scale) text : Conversion Literal) = .ok literal) : literal.IsOf (.decimal scale) := by
    split at encoded
    · rename_i isDecimal
      cases encoded
      exact .decimal scale isDecimal
    · cases encoded
  unfold encodeDecimal at encoded
  split at encoded
  · exact written encoded
  · exact written encoded
  · split at encoded
    · exact written encoded
    · cases encoded
  · cases encoded

theorem encodeText_eq_ok (encoded : encodeText type s = .ok literal) : ∃ text, literal = .quoted text := by
  unfold encodeText at encoded
  split at encoded
  all_goals cases encoded
  all_goals exact ⟨_, rfl⟩

theorem isOf_encodeBlob {length : Option Nat} (encoded : encodeBlob length s = .ok literal) :
    literal.IsOf (.blob length) := by
  unfold encodeBlob at encoded
  split at encoded
  · rename_i bytes
    split at encoded
    · cases encoded
    · cases encoded
      exact .hex length bytes
  · cases encoded

theorem isOf_encodeBoolean (encoded : encodeBoolean s = .ok literal) : literal.IsOf .boolean := by
  unfold encodeBoolean at encoded
  split at encoded
  · cases encoded
    exact .truth _
  · cases encoded
    exact .truth _
  · cases encoded
    exact .truth _
  · cases encoded

theorem isOf_dateLiteral {members : Fields} {shown : String} (encoded : dateLiteral members shown = .ok literal) :
    literal.IsOf .date := by
  unfold dateLiteral at encoded
  split at encoded
  · cases encoded
    exact .day _ _ _
  · cases encoded

theorem isOf_encodeDate (encoded : encodeDate zone s = .ok literal) : literal.IsOf .date := by
  unfold encodeDate at encoded
  split at encoded
  · exact isOf_dateLiteral encoded
  · cases encoded
  · split at encoded
    · exact isOf_dateLiteral encoded
    · cases encoded
  · cases encoded

theorem isOf_timeLiteral {members : Fields} {shown : String} (encoded : timeLiteral members shown = .ok literal) :
    literal.IsOf .time := by
  unfold timeLiteral at encoded
  split at encoded
  · cases encoded
    exact .time _
  · cases encoded

theorem isOf_encodeTime (encoded : encodeTime zone s = .ok literal) : literal.IsOf .time := by
  unfold encodeTime at encoded
  split at encoded
  · exact isOf_timeLiteral encoded
  · cases encoded
  · split at encoded
    · exact isOf_timeLiteral encoded
    · cases encoded
  · cases encoded

theorem isOf_encodeTimestamp (encoded : encodeTimestamp zone s = .ok literal) : literal.IsOf .timestamp := by
  have counted {given : Scalar} (encoded : encodeInteger .bigint given = .ok literal) : literal.IsOf .timestamp := by
    obtain ⟨i, rfl⟩ := encodeInteger_eq_ok encoded
    exact .instant i
  unfold encodeTimestamp at encoded
  split at encoded
  · cases encoded
    exact .instant _
  · cases encoded
  · exact counted encoded
  · exact counted encoded
  · simp only [] at encoded
    split at encoded
    · exact counted encoded
    · split at encoded
      · cases encoded
        exact .instant _
      · cases encoded
  · rename_i members
    split at encoded
    · split at encoded
      · rename_i micro _ _ given
        -- Whichever fields are left out, what is counted is a whole number of milliseconds.
        rcases epochMillis_cases zone given with none | ⟨i, integer, small⟩
        · simp [none, outOfRange] at encoded
        · split at encoded
          · cases encoded
          · cases encoded
            rw [Double.text_of_toInt integer small]
            exact .instant i
      · cases encoded
    · cases encoded
  · cases encoded

/-- Whatever is encoded as a type is a literal of the type. -/
theorem isOf_encodeScalar (encoded : encodeScalar zone type s = .ok literal) : literal.IsOf type := by
  cases type with
  | integer kind =>
    obtain ⟨i, rfl⟩ := encodeInteger_eq_ok encoded
    exact .integer kind i
  | floating kind => exact isOf_encodeFloating encoded
  | decimal scale => exact isOf_encodeDecimal encoded
  | blob length => exact isOf_encodeBlob encoded
  | date => exact isOf_encodeDate encoded
  | time => exact isOf_encodeTime encoded
  | timestamp => exact isOf_encodeTimestamp encoded
  | boolean => exact isOf_encodeBoolean encoded
  | textual kind =>
    obtain ⟨text, rfl⟩ := encodeText_eq_ok encoded
    exact .textual kind text
  | other name =>
    obtain ⟨text, rfl⟩ := encodeText_eq_ok encoded
    exact .other name text

theorem written_of_isOf (isOf : literal.IsOf type) : literal.IsWritten := by
  cases isOf with
  | integer kind i => exact .bare (.integer i)
  | float d => exact .bare (.general singleDigits_le d)
  | double d => exact .bare (.double d)
  | decimal scale isDecimal => exact .bare (.decimal isDecimal)
  | hex length bytes => exact .bare (.hex bytes)
  | truth b => exact .bare (.truth b)
  | instant i => exact .bare (.integer i)
  | day | time | textual | other => exact .quoted _

theorem written_encodeScalar (encoded : encodeScalar zone type s = .ok literal) : literal.IsWritten :=
  written_of_isOf (isOf_encodeScalar encoded)

end Encoders

/-! ## What is encoded is plain -/

theorem isWord_bare {text : String} (isBare : BareText text) : IsWord text.toList := by
  cases isBare with
  | integer i => exact isWord_integer i
  | double d => exact isWord_text d
  | general counted d => exact isWord_generalText counted d
  | decimal isDecimal => exact isWord_of_isDecimal (isDecimal_of_text isDecimal)
  | hex bytes =>
    have chars : ("0x" ++ hex bytes).toList = '0' :: 'x' :: hexChars bytes := by
      simp [hex]
    rw [chars]
    exact .cons (by decide) (List.forall_mem_cons.mpr ⟨by decide, hexChars_token bytes⟩)
  | truth b => cases b <;> decide

theorem isPlain_written {literal : Literal} (written : literal.IsWritten) : literal.IsPlain := by
  cases written with
  | bare isBare => exact isWord_bare isBare
  | quoted text => trivial

/-- Whatever is encoded is a plain literal. -/
theorem isPlain_encode {zone : Zone} {type : LogicalType} {value : Value} {literal : Literal}
    (encoded : encode zone type value = .ok literal) : literal.IsPlain := by
  cases value with
  | missing =>
    cases encoded
    trivial
  | null =>
    cases encoded
    trivial
  | scalar s => exact isPlain_written (written_encodeScalar encoded)

end CqlTable
