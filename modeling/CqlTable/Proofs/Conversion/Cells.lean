import CqlTable.Proofs.Conversion.CalendarText
import CqlTable.Proofs.Conversion.NullCells
import CqlTable.Proofs.Conversion.Timestamps
import CqlTable.Proofs.Number.ReadBack

/-!
# Driver cells: what is stored is read

A value that the client hands over for a column is read as the same value:
truth values, bytes, texts, decimals, dates, times of day, timestamps, floating
point numbers but for the sign of zero, and integers (`driver_cells_read`). An
integer in the form of a number is the same up to two to the fifty-third; a
larger one is read as the integer that its shortest digits spell.
-/

namespace CqlTable

open Text Calendar

/-! ## Integers -/

/-- An integer as it is read for its kind. -/
def IntegerKind.scalar (kind : IntegerKind) (i : Int) : Scalar :=
  match kind with
  | .bigint => .bigint i
  | _ => .number (Double.ofInt i)

theorem decodeInteger_eq (kind : IntegerKind) (text : String) :
    decodeInteger kind text = (readInteger kind text).map kind.scalar := by
  cases kind <;> rfl

/-- The digits of an integer are read as it, if it has the width of the kind. -/
theorem decode_integer (kind : IntegerKind) (i : Int) :
    decode (.integer kind) (Text.integer i) =
      if kind.holds i then .ok (some (kind.scalar i)) else outOfRange (.integer kind) (Text.integer i) := by
  have notNull := not_null_of_integer (integerValue_integer i)
  rw [decode, if_neg notNull, decodeScalar, decodeInteger_eq, readInteger, integerValue_integer]
  cases holds : kind.holds i with
  | true =>
    simp only [holds, ↓reduceIte]
    rfl
  | false =>
    simp only [holds, Bool.false_eq_true, ↓reduceIte]
    rfl

/-! ## Floating point numbers -/

theorem toSingle_plainZero {d : Double} (single : d.toSingle = d) : d.plainZero.toSingle = d.plainZero := by
  cases isZero : d.isZero with
  | true =>
    rw [Double.plainZero, if_pos isZero]
    decide +kernel
  | false => rw [Double.plainZero, isZero, if_neg Bool.false_ne_true, single]

/-- The text of a number is read as the number, but for the sign of zero; for
    single precision it must be one of its values. -/
theorem readFloating_text {kind : FloatKind} {d : Double} (narrow : kind = .float → d.toSingle = d) :
    readFloating kind d.text = .ok d.plainZero := by
  have trimmed : trimChars d.text.toList = d.text.toList :=
    trimChars_of_no_blanks fun c inside => not_isBlank_of_isTokenChar ((isWord_text d).2 c inside)
  cases isFinite : d.isFinite with
  | true =>
    have read := Double.ofText_text isFinite
    have zeroFinite : d.plainZero.isFinite = true := by
      unfold Double.plainZero
      split
      · rfl
      · exact isFinite
    rw [readFloating, trimmed]
    cases kind with
    | double => simp [Number.nonFinite_of_ofText read, read, zeroFinite]
    | float => simp [Number.nonFinite_of_ofText read, read, toSingle_plainZero (narrow rfl), zeroFinite]
  | false =>
    have word : Number.nonFinite? d.text.toList = some d.plainZero := by
      cases d with
      | nan => decide
      | infinite negative => cases negative <;> decide
      | finite negative mantissa exponent fits => cases isFinite
    rw [readFloating, trimmed]
    simp only [word]

/-! ## Dates and times of day -/

theorem signedPadded_eq (width : Nat) {i : Int} (small : i.natAbs ≤ Double.greatestExact) :
    signedPadded width i = paddedNumber width (Double.ofInt i) := by
  rw [← String.toList_inj, toList_signed, toList_paddedNumber width (Double.toInt_ofInt small) small]

/-- The entries of a date. -/
def Calendar.Date.fields (date : Date) : Fields :=
  [Fields.entry "year" date.year, Fields.entry "month" date.month, Fields.entry "day" date.day]

/-- The year of a day within a hundred million days of the epoch may have a
    sign and more than four digits. -/
theorem decode_dateText {date : Date} (isReal : date.IsReal)
    (near : (dayNumber date.year date.month date.day).natAbs ≤ 100000000) :
    decodeDate (dateText (paddedNumber 4 (Double.ofInt date.year)) date.month date.day) =
      .ok (.fields date.fields) := by
  have small : date.year.natAbs ≤ Double.greatestExact := le_trans (year_of_dayNumber isReal near) (by decide)
  obtain ⟨months, firstDay, lastDay⟩ := checkedDate_of_isReal isReal
  obtain ⟨month, monthNat⟩ := Int.eq_ofNat_of_zero_le (show 0 ≤ date.month by omega)
  obtain ⟨day, dayNat⟩ := Int.eq_ofNat_of_zero_le (show 0 ≤ date.day by omega)
  rw [Date.fields, monthNat, dayNat, decodeDate_dateText (Double.toInt_ofInt small) small (by omega) (by omega),
    Double.plainZero_ofInt small]
  rfl

theorem decode_localDate {date : Date} (isReal : date.IsReal)
    (near : (dayNumber date.year date.month date.day).natAbs ≤ 100000000) :
    decodeDate (LocalDate.date date).text =
      .ok (.fields [Fields.entry "year" date.year, Fields.entry "month" date.month, Fields.entry "day" date.day]) := by
  have small : date.year.natAbs ≤ Double.greatestExact := le_trans (year_of_dayNumber isReal near) (by decide)
  have text : (LocalDate.date date).text =
      dateText (paddedNumber 4 (Double.ofInt date.year)) date.month date.day := by
    rw [← signedPadded_eq 4 small]
    rfl
  rw [text]
  exact decode_dateText isReal near

/-- The fraction of the second is not looked at. -/
theorem decode_localTime {nanoseconds : Nat} (inDay : nanoseconds < 86400000000000) :
    decodeTime (localTimeText nanoseconds) =
      .ok (.fields (timeFields (nanoseconds / 3600000000000) (nanoseconds / 60000000000 % 60)
        (nanoseconds / 1000000000 % 60))) := by
  have hour : nanoseconds / 1000000000 / 3600 = nanoseconds / 3600000000000 := by omega
  have minute : nanoseconds / 1000000000 / 60 = nanoseconds / 60000000000 := by omega
  have chars : (localTimeText nanoseconds).toList =
      padDigits 2 (nanoseconds / 3600000000000) ++ ':' :: (padDigits 2 (nanoseconds / 60000000000 % 60) ++
        ':' :: (padDigits 2 (nanoseconds / 1000000000 % 60) ++
          '.' :: padDigits 6 (nanoseconds / 1000 % 1000000))) := by
    simp [localTimeText, padded, padDigits, hour, minute]
  exact decodeTime_padded chars (by simp; decide) (by omega) (by omega) (by omega)

theorem decode_instant {t : Instant} {d : DateTime} (inRange : d.InRange) (same : d.millis = t.millis) :
    decode .timestamp (Text.integer t.millis) = .ok (some (.fields d.fields)) := by
  obtain ⟨isReal, time, microseconds, whole⟩ := inRange
  have inside : ¬ maxMillis < t.millis.natAbs := Nat.not_lt.mpr t.bounded
  have uncut : d.microsecond / 1000 * 1000 = d.microsecond := by omega
  rw [decode_timestamp_spelled (spells_integer t.millis), if_neg inside, ← same,
    dateTimeOf_millis time (by omega), dateOfDay_dayNumber isReal, uncut]

/-! ## Values of the client for columns -/

/-- The value of the client stands for the scalar in a column of the type. A
    number stands for an integer as far as each integer is a double, and a value
    in a column of a type without a form of its own stands for its text. -/
inductive Stores : LogicalType → DriverCell → Scalar → Prop
  | bigint {kind i} (holds : kind.holds i = true) : Stores (.integer kind) (.bigint i) (kind.scalar i)
  | number {kind d i} (isInteger : d.toInt? = some i) (exact : i.natAbs ≤ 2 ^ 53) (holds : kind.holds i = true) :
      Stores (.integer kind) (.number d) (kind.scalar i)
  | floating {kind d} (narrow : kind = .float → d.toSingle = d) :
      Stores (.floating kind) (.number d) (.number d.plainZero)
  | boolean (b : Bool) : Stores .boolean (.boolean b) (.boolean b)
  | bytes (length : Option Nat) (b : Bytes) : Stores (.blob length) (.bytes b) (.bytes b)
  | text {s} (kind : TextKind) (notNull : ¬ MarksNull s) : Stores (.textual kind) (.text s) (.text s)
  | decimal (scale : Nat) (unscaled places : Int) :
      Stores (.decimal scale) (.bigDecimal unscaled places) (.text (bigDecimalText unscaled places))
  | date {date : Date} (isReal : date.IsReal)
      (near : (dayNumber date.year date.month date.day).natAbs ≤ 100000000) :
      Stores .date (.localDate (.date date))
        (.fields [Fields.entry "year" date.year, Fields.entry "month" date.month, Fields.entry "day" date.day])
  | time {nanoseconds : Nat} (inDay : nanoseconds < 86400000000000) :
      Stores .time (.localTime nanoseconds)
        (.fields (timeFields (nanoseconds / 3600000000000) (nanoseconds / 60000000000 % 60)
          (nanoseconds / 1000000000 % 60)))
  | timestamp {t : Instant} {d : DateTime} (inRange : d.InRange) (same : d.millis = t.millis) :
      Stores .timestamp (.instant (some t)) (.fields d.fields)
  | other {cell} (name : String) (formed : cell.WellFormed) (notNull : ¬ cell.IsNull) :
      Stores (.other name) cell (.text cell.format)

theorem wellFormed_of_stores {type : LogicalType} {cell : DriverCell} {s : Scalar} (stored : Stores type cell s) :
    cell.WellFormed ∧ ¬ cell.IsNull := by
  cases stored with
  | text kind notNull => exact ⟨trivial, notNull⟩
  | other name formed notNull => exact ⟨formed, notNull⟩
  | _ => exact ⟨trivial, id⟩

/-- What the client stores in a column is read. -/
theorem decode_of_stores {type : LogicalType} {cell : DriverCell} {s : Scalar} (stored : Stores type cell s) :
    decode type cell.format = .ok (some s) := by
  obtain ⟨formed, notNull⟩ := wellFormed_of_stores stored
  have reads (scalar : decodeScalar type cell.format = .ok s) : decode type cell.format = .ok (some s) := by
    rw [decode_of_not_marksNull fun null => notNull ((DriverCell.marksNull_format_iff formed).mp null), scalar]
    rfl
  cases stored with
  | bigint holds => exact (decode_integer _ _).trans (if_pos holds)
  | number isInteger exact holds =>
    rw [DriverCell.format, Double.text_of_toInt isInteger exact]
    exact (decode_integer _ _).trans (if_pos holds)
  | floating narrow =>
    apply reads
    rw [DriverCell.format, decodeScalar, readFloating_text narrow]
    rfl
  | boolean b => cases b <;> decide
  | bytes length b => exact reads (decodeBlob_hex length b)
  | date isReal near =>
    apply reads
    rw [DriverCell.format, decodeScalar, decode_localDate isReal near]
  | time inDay =>
    apply reads
    rw [DriverCell.format, decodeScalar, decode_localTime inDay]
  | timestamp inRange same => exact decode_instant inRange same
  | text | decimal | other => exact reads rfl

/-- A number that is an integer is read as the integer that its shortest digits
    spell, whose double the number is, if that has the width of the kind. -/
theorem decode_number_integer {kind : IntegerKind} {d : Double} {i : Int} (isInteger : d.toInt? = some i)
    (holds : kind.holds i = true) :
    ∃ j : Int, d.text = Text.integer j ∧ Double.ofInt j = d.plainZero ∧ (i.natAbs ≤ 2 ^ 53 → j = i) ∧
      decode (.integer kind) (DriverCell.number d).format =
        if kind.holds j then .ok (some (kind.scalar j)) else outOfRange (.integer kind) d.text := by
  have wide : i.natAbs < 10 ^ 20 := by
    have widest : -9223372036854775808 ≤ kind.least ∧ kind.greatest ≤ 9223372036854775807 := by
      cases kind <;> decide
    have bounds : kind.least ≤ i ∧ i ≤ kind.greatest := by simpa [IntegerKind.holds] using holds
    omega
  obtain ⟨j, text, double, exact⟩ := Double.exists_integer_text isInteger wide
  refine ⟨j, text, double, exact, ?_⟩
  rw [DriverCell.format, text]
  exact decode_integer kind j

/-- Each value of the client is read as the scalar that it stands for, and one
    is null exactly when it is the null of the client, a text that stands for
    null, or a duration without any part. -/
theorem driver_cells_read :
    (∀ {type : LogicalType} {cell : DriverCell} {s : Scalar}, Stores type cell s →
      decode type cell.format = .ok (some s)) ∧
    (∀ t : Instant, ∃ d : DateTime, Stores .timestamp (.instant (some t)) (.fields d.fields)) ∧
    (∀ {kind : IntegerKind} {d : Double} {i : Int}, d.toInt? = some i → kind.holds i = true →
      ∃ j : Int, d.text = Text.integer j ∧ Double.ofInt j = d.plainZero ∧ (i.natAbs ≤ 2 ^ 53 → j = i) ∧
        decode (.integer kind) (DriverCell.number d).format =
          if kind.holds j then .ok (some (kind.scalar j)) else outOfRange (.integer kind) d.text) ∧
    (∀ (type : LogicalType) (cell : DriverCell), cell.WellFormed →
      (decode type cell.format = .ok none ↔ cell.IsNull)) := by
  refine ⟨decode_of_stores, fun t => ?_, decode_number_integer, fun type cell formed => ?_⟩
  · exact ⟨dateTimeOf t.millis, .timestamp (inRange_dateTimeOf _) (millis_dateTimeOf _)⟩
  · exact decode_eq_none_iff.trans (DriverCell.marksNull_format_iff formed)

/-- The least of a width, the last moments of a day and before the epoch, the
    first day with a date, and an integer past two to the fifty-third. -/
theorem cells_at_bounds :
    decode (.integer .tinyint) (DriverCell.number (Double.ofInt (-128))).format =
      .ok (some (.number (Double.ofInt (-128)))) ∧
    decode .time (DriverCell.localTime 86399999999999).format = .ok (some (.fields (timeFields 23 59 59))) ∧
    decode .timestamp (DriverCell.instant (some ⟨-1, by decide⟩)).format =
      .ok (some (.fields (DateTime.fields ⟨⟨1969, 12, 31⟩, ⟨23, 59, 59⟩, 999000⟩))) ∧
    decode .date (DriverCell.localDate (.date ⟨-271821, 4, 20⟩)).format =
      .ok (some (.fields [Fields.entry "year" (-271821), Fields.entry "month" 4, Fields.entry "day" 20])) ∧
    (∃ j : Int, Double.ofInt j = (Double.ofInt 9007199254740994).plainZero ∧
      decode (.integer .bigint) (DriverCell.number (Double.ofInt 9007199254740994)).format =
        if IntegerKind.bigint.holds j then .ok (some (.bigint j))
        else outOfRange (.integer .bigint) (Double.ofInt 9007199254740994).text) ∧
    decode (.other "inet") (DriverCell.address [10, 0, 0, 1]).format ≠ .ok none := by
  obtain ⟨stored, -, numbers, nulls⟩ := driver_cells_read
  have large : (Double.ofInt 9007199254740994).toInt? = some 9007199254740994 := by decide +kernel
  have holds : IntegerKind.bigint.holds 9007199254740994 = true := by decide
  obtain ⟨j, -, double, -, read⟩ := numbers large holds
  refine ⟨stored (.number (by decide +kernel) (by decide) (by decide)), stored (.time (by decide)),
    stored (.timestamp ⟨by decide, by decide, by decide, by decide⟩ (by decide)),
    stored (.date (by decide) (by decide)), ⟨j, double, read⟩, ?_⟩
  exact fun null => (nulls (.other "inet") (.address [10, 0, 0, 1]) (Or.inl rfl)).mp null

/-- A number past two to the fifty-third is read as another integer than it is,
    and a duration without any part is read as null. -/
theorem cells_not_read :
    ((Double.ofInt 1152921504606846976).toInt? = some 1152921504606846976 ∧
      decode (.integer .bigint) (DriverCell.number (Double.ofInt 1152921504606846976)).format =
        .ok (some (.bigint 1152921504606847000))) ∧
    decode (.other "duration") (DriverCell.duration 0 0 0).format = .ok none ∧
    (¬ ∀ (kind : IntegerKind) (d : Double) (i : Int), d.toInt? = some i → kind.holds i = true →
      decode (.integer kind) (DriverCell.number d).format = .ok (some (kind.scalar i))) ∧
    ¬ ∀ (type : LogicalType) (cell : DriverCell), cell.WellFormed →
      (decode type cell.format = .ok none ↔ cell = .null ∨ cell = .text "NULL" ∨ cell = .text "") := by
  have integer : (Double.ofInt 1152921504606846976).toInt? = some 1152921504606846976 := by decide +kernel
  have read : decode (.integer .bigint) (DriverCell.number (Double.ofInt 1152921504606846976)).format =
      .ok (some (.bigint 1152921504606847000)) := by decide +kernel
  have null : decode (.other "duration") (DriverCell.duration 0 0 0).format = .ok none := by decide
  refine ⟨⟨integer, read⟩, null, fun numbers => ?_, fun nulls => ?_⟩
  · have exact := numbers .bigint _ _ integer (by decide)
    exact absurd (exact.symm.trans read) (by decide)
  · rcases (nulls (.other "duration") (.duration 0 0 0) trivial).mp null with same | same | same
    all_goals cases same

end CqlTable
