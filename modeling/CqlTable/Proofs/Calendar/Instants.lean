import CqlTable.Calendar.Instant
import CqlTable.Proofs.Calendar.Dates

/-!
# Instants: milliseconds and the fields that stand for them

The fields of a count of milliseconds are in their ranges
(`inRange_dateTimeOf`) and count to it again (`millis_dateTimeOf`). Fields with
a time of day within its range are found again from their milliseconds, but for
the date, which rolls over when it is not real (`dateTimeOf_millis`).
-/

namespace CqlTable.Calendar

/-! ## Fields and milliseconds -/

/-- The time of day is within its range. -/
def TimeOfDay.InRange (time : TimeOfDay) : Prop :=
  (0 ≤ time.hour ∧ time.hour ≤ 23) ∧ (0 ≤ time.minute ∧ time.minute ≤ 59) ∧
    (0 ≤ time.second ∧ time.second ≤ 59)

instance (time : TimeOfDay) : Decidable time.InRange := inferInstanceAs (Decidable (_ ∧ _))

/-- The date is real, the time of day within its range, and the microseconds
    are whole milliseconds of a second. -/
def DateTime.InRange (d : DateTime) : Prop :=
  d.date.IsReal ∧ d.time.InRange ∧ (0 ≤ d.microsecond ∧ d.microsecond ≤ 999000) ∧ d.microsecond % 1000 = 0

/-- The milliseconds of a date and its time of day, without microseconds. -/
def DateTime.wholeMillis (d : DateTime) : Int :=
  dayMillis * dayNumber d.date.year d.date.month d.date.day +
    millisOfDay d.time.hour d.time.minute d.time.second

/-- The milliseconds that fields count to. -/
def DateTime.millis (d : DateTime) : Int := d.wholeMillis + d.microsecond / 1000

/-- The same fields with the microseconds cut to milliseconds. -/
def DateTime.cutToMillis (d : DateTime) : DateTime := { d with microsecond := d.microsecond / 1000 * 1000 }

theorem inRange_dateTimeOf (millis : Int) : (dateTimeOf millis).InRange := by
  refine ⟨(isReal_dateOfDay _).1, ?_, ?_, ?_⟩
  · simp only [dateTimeOf, TimeOfDay.InRange, dayMillis]
    omega
  · simp only [dateTimeOf, dayMillis]
    omega
  · simp only [dateTimeOf, dayMillis]
    omega

theorem wholeMillis_dateTimeOf (millis : Int) : (dateTimeOf millis).wholeMillis = millis - millis % 1000 := by
  simp only [DateTime.wholeMillis, dateTimeOf, (isReal_dateOfDay _).2, millisOfDay, dayMillis]
  omega

/-- The fields of a count of milliseconds count to it. -/
theorem millis_dateTimeOf (millis : Int) : (dateTimeOf millis).millis = millis := by
  rw [DateTime.millis, wholeMillis_dateTimeOf]
  simp only [dateTimeOf, dayMillis]
  omega

/-- The fields of the milliseconds of a date and time: the date may have rolled
    over. -/
theorem dateTimeOf_millis {d : DateTime} (time : d.time.InRange)
    (microseconds : 0 ≤ d.microsecond ∧ d.microsecond ≤ 999999) :
    dateTimeOf d.millis =
      ⟨dateOfDay (dayNumber d.date.year d.date.month d.date.day), d.time, d.microsecond / 1000 * 1000⟩ := by
  obtain ⟨⟨year, month, day⟩, ⟨hour, minute, second⟩, microsecond⟩ := d
  unfold TimeOfDay.InRange at time
  simp only [DateTime.millis, DateTime.wholeMillis, dateTimeOf, dayMillis, millisOfDay] at *
  generalize dayNumber year month day = n
  have rest : (86400000 * n + (3600000 * hour + 60000 * minute + 1000 * second) + microsecond / 1000) % 86400000 =
      3600000 * hour + 60000 * minute + 1000 * second + microsecond / 1000 := by omega
  have whole : (86400000 * n + (3600000 * hour + 60000 * minute + 1000 * second) + microsecond / 1000) / 86400000 =
      n := by omega
  rw [rest, whole]
  simp only [DateTime.mk.injEq, TimeOfDay.mk.injEq, true_and]
  omega

/-! ## Instants of fields -/

@[simp] theorem ahead_utc : Zone.utc.ahead = 0 := rfl

@[simp] theorem ahead_local : Zone.local.ahead = 18000000 := rfl

theorem dayNumberRolling_month {month : Int} (year day : Int) (inYear : 1 ≤ month ∧ month ≤ 12) :
    dayNumberRolling year month day = dayNumber year month day := by
  have same : (month - 1) / 12 = 0 := by omega
  have rest : (month - 1) % 12 + 1 = month := by omega
  rw [dayNumberRolling, same, rest, Int.add_zero]

theorem ofMillis_eq_some_iff {millis : Int} {t : Instant} : Instant.ofMillis? millis = some t ↔ t.millis = millis := by
  unfold Instant.ofMillis?
  constructor
  · intro found
    split at found
    · rw [← Option.some.inj found]
    · exact absurd found (by simp)
  · rintro rfl
    rw [dif_pos t.bounded]

/-- Fields have an instant when their day begins within the range of instants
    and they lie within it themselves. -/
theorem instantOf_eq_some_iff {d : DateTime} {zone : Zone} {t : Instant}
    (inYear : 1 ≤ d.date.month ∧ d.date.month ≤ 12) :
    instantOf? zone d.date.year d.date.month d.date.day d.time.hour d.time.minute d.time.second = some t ↔
      d.date.year.natAbs ≤ maxYear ∧
        (dayNumber d.date.year d.date.month d.date.day).natAbs ≤ 100000000 ∧
        t.millis = d.wholeMillis - zone.ahead := by
  have month : (d.date.month - 1).natAbs ≤ maxMonth := by
    unfold maxMonth
    omega
  rw [instantOf?, dayNumberRolling_month _ _ inYear]
  by_cases year : d.date.year.natAbs ≤ maxYear
  · simp only [year, month, and_self, ↓reduceIte, true_and]
    by_cases day : (dayNumber d.date.year d.date.month d.date.day).natAbs ≤ 100000000
    · have begins : (dayMillis * dayNumber d.date.year d.date.month d.date.day).natAbs ≤ maxMillis := by
        unfold dayMillis maxMillis
        omega
      simp only [Instant.ofMillis?, begins, day, ↓reduceDIte, true_and]
      exact ofMillis_eq_some_iff
    · have late : ¬ (dayMillis * dayNumber d.date.year d.date.month d.date.day).natAbs ≤ maxMillis := by
        unfold dayMillis maxMillis
        omega
      simp [Instant.ofMillis?, late, day]
  · simp [year]

/-- The years of the days of instants are not too far off. -/
theorem year_dateOfDay {n : Int} (near : n.natAbs ≤ 100000000) : (dateOfDay n).year.natAbs ≤ maxYear := by
  unfold dateOfDay maxYear
  simp only []
  omega

theorem year_of_dayNumber {date : Date} (isReal : date.IsReal)
    (near : (dayNumber date.year date.month date.day).natAbs ≤ 100000000) : date.year.natAbs ≤ maxYear := by
  rw [← dateOfDay_dayNumber isReal]
  exact year_dateOfDay near

end CqlTable.Calendar
