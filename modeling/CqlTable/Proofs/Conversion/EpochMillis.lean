import CqlTable.Proofs.Calendar.Counting
import CqlTable.Proofs.Conversion.Timestamps

/-!
# Milliseconds of calendar fields: dates that are counted day by day

The date of fields is fixed before their time of day, and neither can leave the
range of instants alone (`instantOf_checked`). So fields stand for the
milliseconds that counting days from the epoch gives, less what their zone is
ahead, and for no number past the range (`epochMillis_counts_days`).
-/

namespace CqlTable

open Calendar

variable {members : Fields} {d : DateTime}

/-- Milliseconds from the epoch with those of microseconds behind them, where
    the former are within the range of instants. -/
def countedMillis (millis microsecond : Int) : Double :=
  if millis.natAbs ≤ 8640000000000000 then .ofInt (millis + microsecond / 1000) else .nan

theorem toInt_countedMillis {millis microsecond i : Int} (inRange : 0 ≤ microsecond ∧ microsecond ≤ 999999)
    (counted : (countedMillis millis microsecond).toInt? = some i) : i = millis + microsecond / 1000 := by
  unfold countedMillis at counted
  by_cases near : millis.natAbs ≤ 8640000000000000
  · have exact : (Double.ofInt (millis + microsecond / 1000)).toInt? = some (millis + microsecond / 1000) :=
      Double.toInt_ofInt (by unfold Double.greatestExact; omega)
    rw [if_pos near, exact] at counted
    exact (Option.some.inj counted).symm
  · rw [if_neg near] at counted
    cases counted

theorem ahead_bounds (zone : Zone) : 0 ≤ zone.ahead ∧ zone.ahead ≤ 18000000 := by
  cases zone with
  | «local» => simp
  | utc => simp

/-- What is within the range of instants has a day within it: the range ends
    with whole days on both sides. -/
theorem day_of_near (zone : Zone) (time : d.time.InRange) (near : (d.wholeMillis - zone.ahead).natAbs ≤ maxMillis) :
    (dayNumber d.date.year d.date.month d.date.day).natAbs ≤ 100000000 := by
  obtain ⟨behind, ahead⟩ := ahead_bounds zone
  unfold TimeOfDay.InRange at time
  unfold DateTime.wholeMillis dayMillis millisOfDay maxMillis at near
  omega

/-- A day near the epoch has a year near it, also a day past the end of its
    month. -/
theorem year_of_day {year month day : Int} (months : 1 ≤ month ∧ month ≤ 12) (days : 1 ≤ day ∧ day ≤ 31)
    (near : (dayNumber year month day).natAbs ≤ 100000000) : year.natAbs ≤ maxYear := by
  simp only [dayNumber] at near
  unfold maxYear
  omega

/-- Fields within the ranges that are looked at have an instant when their
    milliseconds are those of one. -/
theorem instantOf_checked (zone : Zone) (checked : d.Checked) :
    instantOf? zone d.date.year d.date.month d.date.day d.time.hour d.time.minute d.time.second =
      Instant.ofMillis? (d.wholeMillis - zone.ahead) := by
  obtain ⟨⟨months, days⟩, time, -⟩ := checked
  apply Option.ext
  intro t
  rw [instantOf_eq_some_iff months, ofMillis_eq_some_iff]
  constructor
  · rintro ⟨-, -, same⟩
    exact same
  -- The midnight before an instant is within the range, and so is its year.
  · intro same
    have day := day_of_near zone time (same ▸ t.bounded)
    exact ⟨year_of_day months days day, day, same⟩

theorem epochMillis_eq (zone : Zone) (given : members.Give d) (checked : d.Checked) :
    members.epochMillis zone = countedMillis (d.wholeMillis - zone.ahead) d.microsecond := by
  obtain ⟨micro, integer, counted⟩ := epochMillis_given zone given checked.1.1
  rw [counted, instantOf_checked zone checked, Instant.ofMillis?, countedMillis]
  by_cases near : (d.wholeMillis - zone.ahead).natAbs ≤ maxMillis
  · have near' : (d.wholeMillis - zone.ahead).natAbs ≤ 8640000000000000 := near
    rw [dif_pos near, if_pos near', Option.elim_some]
    exact add_microseconds ⟨_, near⟩ integer checked.2.2
  · have far : ¬ (d.wholeMillis - zone.ahead).natAbs ≤ 8640000000000000 := near
    rw [dif_neg near, if_neg far, Option.elim_none]

/-- Fields with a day of at most 31 stand for the milliseconds to their month,
    counted in days from the epoch, to their day in it, and to their time of
    day, less five hours in local time. A day past the end of its month stands
    for the one that counting on reaches, and of real dates with a time of day
    the earlier has the fewer milliseconds. -/
theorem epochMillis_counts_days (given : members.Give d) (checked : d.Checked) :
    (∃ days : Int, (∀ n, DaysFrom ⟨1970, 1, 1⟩ ⟨d.date.year, d.date.month, 1⟩ n ↔ n = days) ∧
      ∃ whole : Int, whole = 86400000 * (days + (d.date.day - 1)) + 3600000 * d.time.hour +
          60000 * d.time.minute + 1000 * d.time.second ∧
        members.epochMillis .utc = countedMillis whole d.microsecond ∧
        members.epochMillis .local = countedMillis (whole - 18000000) d.microsecond) ∧
    (∀ later : Fields,
      later.Give { d with date := Date.next^[(d.date.day - 1).toNat] ⟨d.date.year, d.date.month, 1⟩ } →
      ∀ zone, later.epochMillis zone = members.epochMillis zone) ∧
    ∀ (others : Fields) (e : DateTime), others.Give e → e.Checked → d.date.IsReal → e.date.IsReal →
      ∀ zone i j, (members.epochMillis zone).toInt? = some i → (others.epochMillis zone).toInt? = some j →
        (i < j ↔ d.parts < e.parts) := by
  obtain ⟨⟨months, start, last⟩, time, microseconds⟩ := id checked
  refine ⟨⟨dayNumber d.date.year d.date.month 1, ?_, d.wholeMillis, ?_, ?_, ?_⟩, ?_, ?_⟩
  · intro n
    rw [daysFrom_iff (by decide) (isReal_first d.date.year months)]
    have epoch : dayNumber 1970 1 1 = 0 := rfl
    simp [epoch]
  · rw [DateTime.wholeMillis, dayNumber_day, dayMillis, millisOfDay]
    omega
  · rw [epochMillis_eq .utc given checked, ahead_utc, Int.sub_zero]
  · rw [epochMillis_eq .local given checked, ahead_local]
  · intro later laterGiven zone
    generalize reached : Date.next^[(d.date.day - 1).toNat] ⟨d.date.year, d.date.month, 1⟩ = date at laterGiven
    obtain ⟨isReal, number⟩ := dayNumber_iterate months start reached
    have laterChecked : DateTime.Checked { d with date := date } := ⟨checkedDate_of_isReal isReal, time, microseconds⟩
    rw [epochMillis_eq zone laterGiven laterChecked, epochMillis_eq zone given checked]
    simp only [DateTime.wholeMillis, number]
  · intro others e othersGiven othersChecked realD realE zone i j countD countE
    rw [epochMillis_eq zone given checked] at countD
    rw [epochMillis_eq zone othersGiven othersChecked] at countE
    obtain ⟨-, timeE, microsecondsE⟩ := othersChecked
    rw [← millis_lt_iff realD realE time timeE microseconds microsecondsE, toInt_countedMillis microseconds countD,
      toInt_countedMillis microsecondsE countE]
    unfold DateTime.millis
    omega

/-- A day past the end of February before the epoch, in fields without minutes. -/
theorem rolled_february_counted :
    let late (month day : Int) : Fields := [Fields.entry "year" 1968, Fields.entry "month" month,
      Fields.entry "day" day, Fields.entry "hour" 23, Fields.entry "second" 59, Fields.entry "microsecond" 999999]
    (late 2 31).Give ⟨⟨1968, 2, 31⟩, ⟨23, 0, 59⟩, 999999⟩ ∧
      DateTime.Checked ⟨⟨1968, 2, 31⟩, ⟨23, 0, 59⟩, 999999⟩ ∧ DaysFrom ⟨1970, 1, 1⟩ ⟨1968, 2, 1⟩ (-700) ∧
      (late 2 31).epochMillis .utc = Double.ofInt (-57805140001) ∧
      (late 2 31).epochMillis .local = Double.ofInt (-57823140001) ∧
      (late 3 2).epochMillis .local = (late 2 31).epochMillis .local := by
  intro late
  have small {i : Int} (near : i.natAbs ≤ Double.greatestExact) : (Double.ofInt i).toInt? = some i :=
    Double.toInt_ofInt near
  have given {month day : Int} (months : month.natAbs ≤ Double.greatestExact)
      (days : day.natAbs ≤ Double.greatestExact) :
      (late month day).Give ⟨⟨1968, month, day⟩, ⟨23, 0, 59⟩, 999999⟩ :=
    ⟨⟨_, rfl, small (by decide)⟩, ⟨_, rfl, small months⟩, ⟨_, rfl, small days⟩, ⟨_, rfl, small (by decide)⟩,
      standsFor_of_missing rfl, ⟨_, rfl, small (by decide)⟩, ⟨_, rfl, small (by decide)⟩⟩
  have rolled : (late 2 31).Give ⟨⟨1968, 2, 31⟩, ⟨23, 0, 59⟩, 999999⟩ := given (by decide) (by decide)
  have checked : DateTime.Checked ⟨⟨1968, 2, 31⟩, ⟨23, 0, 59⟩, 999999⟩ := by decide
  have counting : DaysFrom ⟨1970, 1, 1⟩ ⟨1968, 2, 1⟩ (-700) := (daysFrom_iff (by decide) (by decide) (-700)).mpr rfl
  have reached : Date.next^[30] ⟨1968, 2, 1⟩ = ⟨1968, 3, 2⟩ := by decide +kernel
  obtain ⟨⟨days, counted, whole, wholeIs, utc, ahead⟩, rolls, -⟩ := epochMillis_counts_days rolled checked
  have daysIs : -700 = days := (counted (-700)).mp counting
  subst daysIs
  subst wholeIs
  refine ⟨rolled, checked, counting, utc, ahead, rolls (late 3 2) ?_ .local⟩
  show (late 3 2).Give ⟨Date.next^[30] ⟨1968, 2, 1⟩, ⟨23, 0, 59⟩, 999999⟩
  rw [reached]
  exact given (by decide) (by decide)

end CqlTable
