import CqlTable.Proofs.Conversion.RoundTrip
import CqlTable.Proofs.Number.Overflow

/-!
# Calendar text: dates and times that are written and read again

Written parts are padded with zeros, which are not looked at when they are
read.
-/

namespace CqlTable

open Text Calendar

/-! ## Padded numerals between marks -/

theorem markedNumerals_cons {mark : Char} {ds : List Char} (count : Nat) (rest : List Char)
    (digits : ∀ c ∈ ds, isDigit c = true) (nonempty : ds ≠ []) (notDigit : isDigit mark = false) :
    markedNumerals? mark (count + 2) (ds ++ mark :: rest) = (markedNumerals? mark (count + 1) rest).map (ds :: ·) := by
  have taken : takeDigits (ds ++ mark :: rest) = (ds, mark :: rest) :=
    takeDigits_append digits (by simpa using notDigit)
  rw [markedNumerals?, taken]
  cases ds with
  | nil => exact absurd rfl nonempty
  | cons c cs => simp

/-- What follows the last run of digits is not looked at. -/
theorem markedNumerals_last {mark : Char} {ds rest : List Char} (digits : ∀ c ∈ ds, isDigit c = true)
    (nonempty : ds ≠ []) (ends : ∀ c ∈ rest.head?, isDigit c = false) :
    markedNumerals? mark 1 (ds ++ rest) = some [ds] := by
  rw [markedNumerals?, takeDigits_append digits ends]
  cases ds with
  | nil => exact absurd rfl nonempty
  | cons c cs => simp

theorem toList_signed (width : Nat) (i : Int) :
    (signedPadded width i).toList = (if i < 0 then ['-'] else []) ++ padDigits width i.natAbs := by
  by_cases negative : i < 0
  · simp [signedPadded, padded, padDigits, negative]
  · simp [signedPadded, padded, padDigits, negative]

theorem toList_signedPadded (width n : Nat) : (signedPadded width n).toList = padDigits width n := by
  have above : ¬ (n : Int) < 0 := by omega
  rw [toList_signed, if_neg above, List.nil_append, Int.natAbs_natCast]

theorem markedNumerals_padded {mark : Char} {rest : List Char} (notDigit : isDigit mark = false)
    (ends : ∀ c ∈ rest.head?, isDigit c = false) (width a b c : Nat) :
    markedNumerals? mark 3 (padDigits width a ++ mark :: (padDigits 2 b ++ mark :: (padDigits 2 c ++ rest))) =
      some [padDigits width a, padDigits 2 b, padDigits 2 c] := by
  rw [markedNumerals_cons 1 _ (padDigits_digits width a) (padDigits_ne_nil width a) notDigit,
    markedNumerals_cons 0 _ (padDigits_digits 2 b) (padDigits_ne_nil 2 b) notDigit,
    markedNumerals_last (padDigits_digits 2 c) (padDigits_ne_nil 2 c) ends]
  rfl

theorem dropWhile_blank_padDigits (width n : Nat) (rest : List Char) :
    (padDigits width n ++ rest).dropWhile isBlank = padDigits width n ++ rest :=
  dropWhile_append_of_none (fun c inside => not_isBlank_of_isDigit (padDigits_digits width n c inside))
    (padDigits_ne_nil width n)

/-! ## Times -/

/-- The fields of a time of day. -/
def timeFields (hour minute second : Nat) : Fields :=
  [Fields.entry "hour" hour, Fields.entry "minute" minute, Fields.entry "second" second]

theorem decodeTime_eq_ok {text : String} {s : Scalar} (decoded : decodeTime text = .ok s) :
    ∃ hour minute second : Nat, hour ≤ 23 ∧ minute ≤ 59 ∧ second ≤ 59 ∧
      s = .fields (timeFields hour minute second) := by
  unfold decodeTime at decoded
  split at decoded
  · rename_i hour minute second _
    simp only [] at decoded
    split at decoded
    · rename_i inRange
      cases decoded
      exact ⟨_, _, _, inRange.1, inRange.2.1, inRange.2.2, rfl⟩
    · cases decoded
  · cases decoded

theorem toInt_entry {n : Nat} (small : n ≤ 59) : (Double.ofInt n).toInt? = some (n : Int) :=
  Double.toInt_ofInt (by unfold Double.greatestExact; omega)

theorem entry_plainZero (name : String) {n : Nat} (small : n ≤ 59) :
    ((Fields.entry name n).1, (Fields.entry name n).2.plainZero) = Fields.entry name n := by
  simp only [Fields.entry, Member.plainZero]
  rw [Double.plainZero_ofInt (by unfold Double.greatestExact; omega)]

theorem encodeTime_fields (zone : Zone) {hour minute second : Nat} (hours : hour ≤ 23) (minutes : minute ≤ 59)
    (seconds : second ≤ 59) :
    encodeTime zone (.fields (timeFields hour minute second)) = .ok (.quoted (timeText ⟨hour, minute, second⟩)) := by
  have inRange : (TimeOfDay.mk hour minute second).InRange := by
    unfold TimeOfDay.InRange
    simp only []
    omega
  have hasHour : (timeFields hour minute second).has "hour" = true := rfl
  rw [encodeTime, if_pos hasHour]
  exact timeLiteral_number ⟨_, rfl, toInt_entry (by omega)⟩
    ⟨_, rfl, toInt_entry minutes⟩ ⟨_, rfl, toInt_entry seconds⟩ inRange _

/-- A time of day is read from the front of a text. -/
theorem decodeTime_padded {text : String} {rest : List Char} {hour minute second : Nat}
    (chars : text.toList = padDigits 2 hour ++ ':' :: (padDigits 2 minute ++ ':' :: (padDigits 2 second ++ rest)))
    (ends : ∀ c ∈ rest.head?, isDigit c = false) (hours : hour ≤ 23) (minutes : minute ≤ 59)
    (seconds : second ≤ 59) : decodeTime text = .ok (.fields (timeFields hour minute second)) := by
  rw [decodeTime, chars, dropWhile_blank_padDigits, markedNumerals_padded (by decide) ends]
  simp only [numeralValue_padDigits, hours, minutes, seconds, and_self, ↓reduceIte, timeFields]

theorem decodeTime_timeText {hour minute second : Nat} (hours : hour ≤ 23) (minutes : minute ≤ 59)
    (seconds : second ≤ 59) :
    decodeTime (timeText ⟨hour, minute, second⟩) = .ok (.fields (timeFields hour minute second)) := by
  have chars : (timeText ⟨hour, minute, second⟩).toList =
      padDigits 2 hour ++ ':' :: (padDigits 2 minute ++ ':' :: (padDigits 2 second ++ [])) := by
    simp [timeText, toList_signedPadded]
  exact decodeTime_padded chars (by simp) hours minutes seconds

/-- A time is written with two digits a part. -/
theorem round_trip_time (zone : Zone) {text : String} {s : Scalar} (decoded : decodeTime text = .ok s) :
    ∃ written, encodeTime zone s = .ok (.quoted written) ∧ decodeTime written = .ok s.plainZero := by
  obtain ⟨hour, minute, second, hours, minutes, seconds, rfl⟩ := decodeTime_eq_ok decoded
  refine ⟨_, encodeTime_fields zone hours minutes seconds, ?_⟩
  rw [decodeTime_timeText hours minutes seconds]
  simp only [Scalar.plainZero, timeFields, List.map_cons, List.map_nil]
  rw [entry_plainZero "hour" (by omega), entry_plainZero "minute" minutes, entry_plainZero "second" seconds]

/-! ## Dates -/

/-- The fields of a date. -/
def dateFields (year : Double) (month day : Nat) : Fields :=
  [("year", .number year), Fields.entry "month" month, Fields.entry "day" day]

theorem decodeDate_eq_ok {text : String} {s : Scalar} (decoded : decodeDate text = .ok s) :
    ∃ (year : Double) (month day : Nat), year.isInteger = true ∧ (1 ≤ month ∧ month ≤ 12) ∧ (1 ≤ day ∧ day ≤ 31) ∧
      s = .fields (dateFields year month day) := by
  unfold decodeDate at decoded
  split at decoded
  split at decoded
  · simp only [] at decoded
    split at decoded
    · rename_i inRange
      obtain ⟨year, firstMonth, lastMonth, firstDay, lastDay⟩ := inRange
      cases decoded
      exact ⟨_, _, _, year, ⟨firstMonth, lastMonth⟩, ⟨firstDay, lastDay⟩, rfl⟩
    · cases decoded
  · cases decoded

theorem encodeDate_fields (zone : Zone) {year : Double} {month day : Nat} (isInteger : year.isInteger = true)
    (months : 1 ≤ month ∧ month ≤ 12) (days : 1 ≤ day ∧ day ≤ 31) :
    encodeDate zone (.fields (dateFields year month day)) =
      .ok (.quoted (dateText (paddedNumber 4 year) month day)) := by
  obtain ⟨y, yearInt⟩ := Option.isSome_iff_exists.mp isInteger
  have hasYear : (dateFields year month day).has "year" = true := rfl
  rw [encodeDate, if_pos hasYear]
  exact dateLiteral_number rfl yearInt ⟨_, rfl, toInt_entry (by omega)⟩ ⟨_, rfl, toInt_entry (by omega)⟩ (by omega) _

theorem toList_paddedNumber {year : Double} {y : Int} (width : Nat) (yearInt : year.toInt? = some y)
    (small : y.natAbs ≤ Double.greatestExact) :
    (paddedNumber width year).toList = (if y < 0 then ['-'] else []) ++ padDigits width y.natAbs := by
  have digits : year.abs.text.toList = numeralChars y.natAbs := by
    rw [Double.text_of_toInt (Double.toInt_abs yearInt) small]
    simp [Text.integer, integerChars]
  have sign := Double.below_zero_iff yearInt
  by_cases negative : y < 0
  · simp [paddedNumber, sign.mpr negative, negative, digits, padDigits]
  · have above : year.below 0 = false := by simpa [negative] using sign
    simp [paddedNumber, above, negative, digits, padDigits]

theorem decodeDate_dateText {year : Double} {y : Int} {month day : Nat} (yearInt : year.toInt? = some y)
    (small : y.natAbs ≤ Double.greatestExact) (months : 1 ≤ month ∧ month ≤ 12) (days : 1 ≤ day ∧ day ≤ 31) :
    decodeDate (dateText (paddedNumber 4 year) month day) =
      .ok (.fields (dateFields year.plainZero month day)) := by
  have chars : (dateText (paddedNumber 4 year) month day).toList = (if y < 0 then ['-'] else []) ++
      (padDigits 4 y.natAbs ++ '-' :: (padDigits 2 month ++ '-' :: padDigits 2 day)) := by
    simp [dateText, toList_paddedNumber 4 yearInt small, toList_signedPadded]
  have signed : takeSign ((dateText (paddedNumber 4 year) month day).toList.dropWhile isBlank) =
      (decide (y < 0), padDigits 4 y.natAbs ++ '-' :: (padDigits 2 month ++ '-' :: padDigits 2 day)) := by
    rw [chars]
    by_cases negative : y < 0
    · simp [negative, takeSign, show isBlank '-' = false from by decide]
    · rw [if_neg negative, List.nil_append, dropWhile_blank_padDigits, decide_eq_false negative]
      refine takeSign_of_digit fun c head => padDigits_digits 4 y.natAbs c ?_
      rw [List.head?_append_of_ne_nil _ (padDigits_ne_nil 4 y.natAbs)] at head
      exact List.mem_of_mem_head? head
  have yearRead : Double.ofDecimal (y < 0) y.natAbs 0 = year.plainZero := Double.ofDecimal_of_toInt yearInt
  have isInteger : year.plainZero.isInteger = true := by
    simp [Double.isInteger, Double.toInt_plainZero yearInt]
  have parts : markedNumerals? '-' 3
      (padDigits 4 y.natAbs ++ '-' :: (padDigits 2 month ++ '-' :: (padDigits 2 day ++ []))) =
        some [padDigits 4 y.natAbs, padDigits 2 month, padDigits 2 day] :=
    markedNumerals_padded (by decide) (by simp) 4 y.natAbs month day
  rw [List.append_nil] at parts
  rw [decodeDate, signed]
  simp only [parts, numeralValue_padDigits, yearRead, isInteger, months, days, and_self, ↓reduceIte, dateFields]

/-- A date is written with at least four digits of the year, and two of the
    month and the day. -/
theorem round_trip_date (zone : Zone) {text : String} {s : Scalar} (decoded : decodeDate text = .ok s)
    (holds : LogicalType.date.Holds s) :
    ∃ written, encodeDate zone s = .ok (.quoted written) ∧ decodeDate written = .ok s.plainZero := by
  obtain ⟨year, month, day, isInteger, months, days, rfl⟩ := decodeDate_eq_ok decoded
  obtain ⟨y, yearInt⟩ := Option.isSome_iff_exists.mp isInteger
  have small : y.natAbs ≤ Double.greatestExact := by
    obtain ⟨least, most⟩ := holds year rfl
    rw [(Double.toInt_eq_some_iff.mp yearInt).2] at least most
    have leastInt : -9007199254740991 ≤ y := by exact_mod_cast least
    have mostInt : y ≤ 9007199254740991 := by exact_mod_cast most
    unfold Double.greatestExact
    omega
  refine ⟨_, encodeDate_fields zone isInteger months days, ?_⟩
  rw [decodeDate_dateText yearInt small months days]
  simp only [Scalar.plainZero, dateFields, List.map_cons, List.map_nil]
  rw [entry_plainZero "month" (by omega), entry_plainZero "day" (by omega)]
  rfl

end CqlTable
