import CqlTable.Proofs.Conversion.Cells
import CqlTable.Proofs.Conversion.EpochMillis
import CqlTable.Proofs.Conversion.LiteralForms

/-!
# Instants in columns: the date, the time of day and the milliseconds

An instant is written in a column of dates as its date and in one of times of
day as its time, both in the zone. What is read of the two puts the instant
together again in the zone, to the second, and in a column of timestamps an
instant is written as its milliseconds (`instant_splits`).
-/

namespace CqlTable

open Text Calendar

/-! ## Dates and times that are read again -/

/-- The entries of a time of day. -/
def Calendar.TimeOfDay.fields (time : TimeOfDay) : Fields :=
  [Fields.entry "hour" time.hour, Fields.entry "minute" time.minute, Fields.entry "second" time.second]

/-- A text without quotes stands between quotes as it is. -/
theorem quoted_of_no_quote {cell : String} (none : '\'' ∉ cell.toList) :
    (Literal.quoted cell).text = "'" ++ cell ++ "'" := by
  rw [Literal.text, escape, doubleQuotes_of_none none, String.ofList_toList]

theorem decode_timeText {time : TimeOfDay} (inRange : time.InRange) :
    decodeTime (timeText time) = .ok (.fields time.fields) := by
  obtain ⟨hour, minute, second⟩ := time
  obtain ⟨⟨hourStart, hourEnd⟩, ⟨minuteStart, minuteEnd⟩, secondStart, secondEnd⟩ := inRange
  simp only [] at *
  lift hour to Nat using hourStart
  lift minute to Nat using minuteStart
  lift second to Nat using secondStart
  exact decodeTime_timeText (by omega) (by omega) (by omega)

/-- The entries of a real date near the epoch and of a time of day stand for the
    two. -/
theorem give_fields {d : DateTime} (isReal : d.date.IsReal) (time : d.time.InRange)
    (near : (dayNumber d.date.year d.date.month d.date.day).natAbs ≤ 100000000) :
    (d.date.fields ++ d.time.fields).Give { d with microsecond := 0 } := by
  have year : d.date.year.natAbs ≤ Double.greatestExact := le_trans (year_of_dayNumber isReal near) (by decide)
  have small {i : Int} (inRange : 0 ≤ i ∧ i ≤ 59) : (Double.ofInt i).toInt? = some i :=
    Double.toInt_ofInt (by unfold Double.greatestExact; omega)
  obtain ⟨months, days⟩ := checkedDate_of_isReal isReal
  obtain ⟨hours, minutes, seconds⟩ := time
  refine ⟨⟨_, rfl, Double.toInt_ofInt year⟩, ⟨_, rfl, small ?_⟩, ⟨_, rfl, small ?_⟩,
    standsFor_of_hasInteger ⟨_, rfl, small ?_⟩, standsFor_of_hasInteger ⟨_, rfl, small minutes⟩,
    standsFor_of_hasInteger ⟨_, rfl, small seconds⟩, standsFor_of_missing rfl⟩
  all_goals omega

/-! ## Instants -/

/-- The scalar is written between quotes, and what is between them is read as
    the fields. -/
def StoredAs (zone : Zone) (type : LogicalType) (s : Scalar) (members : Fields) : Prop :=
  ∃ cell, encode zone type (.scalar s) = .ok (.quoted cell) ∧ (Literal.quoted cell).text = "'" ++ cell ++ "'" ∧
    decode type cell = .ok (some (.fields members))

variable (t : Instant) (zone : Zone)

/-- In both zones the whole seconds of an instant are those of its milliseconds. -/
theorem wholeMillis_dateTime : (t.dateTime zone).wholeMillis - zone.ahead = 1000 * (t.millis / 1000) := by
  have seconds : zone.ahead % 1000 = 0 := by cases zone <;> rfl
  rw [Instant.dateTime, wholeMillis_dateTimeOf]
  omega

theorem seconds_near : (1000 * (t.millis / 1000)).natAbs ≤ maxMillis := by
  have bound := t.bounded
  unfold maxMillis at *
  omega

theorem day_dateTime : (dayNumber (t.dateTime zone).date.year (t.dateTime zone).date.month
    (t.dateTime zone).date.day).natAbs ≤ 100000000 := by
  have near : ((t.dateTime zone).wholeMillis - zone.ahead).natAbs ≤ maxMillis := by
    rw [wholeMillis_dateTime]
    exact seconds_near t
  exact day_of_near zone (inRange_dateTimeOf _).2.1 near

theorem encodeDate_instant : encodeDate zone (.instant t) =
    .ok (.quoted (dateText (paddedNumber 4 (Double.ofInt (t.dateTime zone).date.year)) (t.dateTime zone).date.month
      (t.dateTime zone).date.day)) := by
  have inRange : (t.dateTime zone).InRange := inRange_dateTimeOf _
  have small : (t.dateTime zone).date.year.natAbs ≤ Double.greatestExact :=
    le_trans (year_of_dayNumber inRange.1 (day_dateTime t zone)) (by decide)
  obtain ⟨-, month, day, -⟩ := hold_fields small (checked_of_inRange inRange)
  exact dateLiteral_number rfl (Double.toInt_ofInt small) month day (checkedDate_of_isReal inRange.1) _

theorem encodeTime_instant : encodeTime zone (.instant t) = .ok (.quoted (timeText (t.dateTime zone).time)) := by
  have inRange : (t.dateTime zone).InRange := inRange_dateTimeOf _
  have small : (t.dateTime zone).date.year.natAbs ≤ Double.greatestExact :=
    le_trans (year_of_dayNumber inRange.1 (day_dateTime t zone)) (by decide)
  obtain ⟨-, -, -, hour, minute, second, -⟩ := hold_fields small (checked_of_inRange inRange)
  exact timeLiteral_number hour minute second inRange.2.1 _

/-- Each instant is written in columns of dates and of times of day, and what
    is read of them is a real date and a time of day that stand together for
    the instant without its milliseconds past the second. -/
theorem instant_splits :
    (∃ (date : Date) (time : TimeOfDay), date.IsReal ∧ time.InRange ∧
      StoredAs zone .date (.instant t) date.fields ∧ StoredAs zone .time (.instant t) time.fields ∧
      (date.fields ++ time.fields).epochMillis zone = Double.ofInt (1000 * (t.millis / 1000))) ∧
    ∃ text, encode zone .timestamp (.scalar (.instant t)) = .ok (.bare text) ∧ IsCanonical text t.millis := by
  obtain ⟨isReal, time, -⟩ : (t.dateTime zone).InRange := inRange_dateTimeOf _
  have near := day_dateTime t zone
  refine ⟨⟨(t.dateTime zone).date, (t.dateTime zone).time, isReal, time, ?_, ?_, ?_⟩, Text.integer t.millis, rfl,
    isCanonical_integer _⟩
  · have read := decode_dateText isReal near
    have unquoted := dateText_no_quote (paddedNumber_no_quote 4 (Double.ofInt (t.dateTime zone).date.year))
      (t.dateTime zone).date.month (t.dateTime zone).date.day
    exact ⟨_, encodeDate_instant t zone, quoted_of_no_quote unquoted, decode_of_refused rfl rfl read⟩
  · have read := decode_timeText time
    exact ⟨_, encodeTime_instant t zone, quoted_of_no_quote (timeText_no_quote _), decode_of_refused rfl rfl read⟩
  · have checked : DateTime.Checked { t.dateTime zone with microsecond := 0 } :=
      ⟨checkedDate_of_isReal isReal, time, by simp⟩
    have whole : DateTime.wholeMillis { t.dateTime zone with microsecond := 0 } - zone.ahead =
        1000 * (t.millis / 1000) := wholeMillis_dateTime t zone
    have bound : (1000 * (t.millis / 1000)).natAbs ≤ 8640000000000000 := seconds_near t
    rw [epochMillis_eq zone (give_fields isReal time near) checked, whole, countedMillis, if_pos bound]
    simp

/-- The last instant has a time of day in local time. -/
example : encode .local .date (.scalar (.instant ⟨8640000000000000, by decide⟩)) = .ok (.quoted "275760-09-13") ∧
    encode .local .time (.scalar (.instant ⟨8640000000000000, by decide⟩)) = .ok (.quoted "05:00:00") := by
  decide +kernel

end CqlTable
