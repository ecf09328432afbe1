import CqlTable.Proofs.Calendar.Instants
import Mathlib.Logic.Function.Iterate

/-!
# Counting days: day numbers and the order of dates

The number of a day is what counting gives, one date of the calendar after the
other (`daysFrom_iff`), and a day past the end of its month is counted on into
the next (`dayNumber_iterate`). Day numbers are ordered as the parts of their
dates are (`dayNumber_lt_iff`), and so are the milliseconds of dates with a time
of day (`millis_lt_iff`).
-/

namespace CqlTable.Calendar

/-! ## Counting -/

/-- So many days after one date comes the other; for a negative number, as many
    days after the other comes the one. -/
def DaysFrom (first last : Date) (days : Int) : Prop :=
  Date.next^[days.toNat] first = Date.next^[(-days).toNat] last

instance (first last : Date) (days : Int) : Decidable (DaysFrom first last days) :=
  inferInstanceAs (Decidable (_ = _))

theorem dateOfDay_iterate (count : Nat) (n : Int) : Date.next^[count] (dateOfDay n) = dateOfDay (n + count) := by
  induction count with
  | zero => simp
  | succ count ih =>
    rw [Function.iterate_succ_apply', ih, ← dateOfDay_succ, Int.add_assoc, Int.natCast_succ]

theorem dateOfDay_inj {m n : Int} : dateOfDay m = dateOfDay n ↔ m = n := by
  constructor
  · intro same
    rw [← (isReal_dateOfDay m).2, same, (isReal_dateOfDay n).2]
  · rintro rfl
    rfl

/-- Counting from one date to another gives the difference of their numbers. -/
theorem daysFrom_iff {first last : Date} (realFirst : first.IsReal) (realLast : last.IsReal) (days : Int) :
    DaysFrom first last days ↔
      days = dayNumber last.year last.month last.day - dayNumber first.year first.month first.day := by
  obtain ⟨m, rfl⟩ : ∃ m, first = dateOfDay m := ⟨_, (dateOfDay_dayNumber realFirst).symm⟩
  obtain ⟨n, rfl⟩ : ∃ n, last = dateOfDay n := ⟨_, (dateOfDay_dayNumber realLast).symm⟩
  rw [DaysFrom, dateOfDay_iterate, dateOfDay_iterate, dateOfDay_inj, (isReal_dateOfDay m).2, (isReal_dateOfDay n).2]
  omega

/-- Days are numbered on past the end of their month. -/
theorem dayNumber_day (year month day : Int) : dayNumber year month day = dayNumber year month 1 + (day - 1) := by
  simp only [dayNumber]
  omega

theorem isReal_first (year : Int) {month : Int} (inYear : 1 ≤ month ∧ month ≤ 12) : (Date.mk year month 1).IsReal :=
  (isReal_iff year month 1).mpr ⟨inYear.1, inYear.2, Int.le_refl 1, monthLength_pos year month⟩

/-- The date that is reached from the first of a month is real, and it has the
    number of the day. -/
theorem dayNumber_iterate {year month day : Int} (inYear : 1 ≤ month ∧ month ≤ 12) (start : 1 ≤ day) {date : Date}
    (reached : Date.next^[(day - 1).toNat] ⟨year, month, 1⟩ = date) :
    date.IsReal ∧ dayNumber date.year date.month date.day = dayNumber year month day := by
  have first : (⟨year, month, 1⟩ : Date) = dateOfDay (dayNumber year month 1) :=
    (dateOfDay_dayNumber (isReal_first year inYear)).symm
  rw [first, dateOfDay_iterate] at reached
  obtain ⟨isReal, number⟩ := isReal_dateOfDay (dayNumber year month 1 + (day - 1).toNat)
  rw [reached] at isReal number
  refine ⟨isReal, ?_⟩
  rw [number, dayNumber_day year month day]
  omega

/-! ## The order of dates -/

/-- Year, month and day of a date. -/
def Date.parts (date : Date) : List Int := [date.year, date.month, date.day]

/-- The parts of a date and time of day down to the millisecond. -/
def DateTime.parts (d : DateTime) : List Int :=
  d.date.parts ++ [d.time.hour, d.time.minute, d.time.second, d.microsecond / 1000]

theorem parts_lt_iff (a b : Date) : a.parts < b.parts ↔
    a.year < b.year ∨ a.year = b.year ∧ (a.month < b.month ∨ a.month = b.month ∧ a.day < b.day) := by
  simp [Date.parts, List.cons_lt_cons_iff]

theorem parts_lt_next (date : Date) : date.parts < date.next.parts := by
  rw [parts_lt_iff]
  unfold Date.next
  split
  · exact .inr ⟨rfl, .inr ⟨rfl, Int.lt_succ date.day⟩⟩
  · split
    · exact .inr ⟨rfl, .inl (Int.lt_succ date.month)⟩
    · exact .inl (Int.lt_succ date.year)

/-- Each later day has the greater parts. -/
theorem parts_lt_later (n : Int) (count : Nat) : (dateOfDay n).parts < (dateOfDay (n + (count + 1 : Nat))).parts := by
  induction count with
  | zero =>
    have following : n + ((0 + 1 : Nat) : Int) = n + 1 := rfl
    rw [following, dateOfDay_succ]
    exact parts_lt_next _
  | succ count ih =>
    have following : n + ((count + 1 + 1 : Nat) : Int) = n + ((count + 1 : Nat) : Int) + 1 := by omega
    have step := parts_lt_next (dateOfDay (n + ((count + 1 : Nat) : Int)))
    rw [following, dateOfDay_succ]
    rw [parts_lt_iff] at *
    omega

/-- Dates and their numbers have the same order. -/
theorem dayNumber_lt_iff {a b : Date} (realA : a.IsReal) (realB : b.IsReal) :
    dayNumber a.year a.month a.day < dayNumber b.year b.month b.day ↔ a.parts < b.parts := by
  have ordered {m n : Int} (less : m < n) : (dateOfDay m).parts < (dateOfDay n).parts := by
    have later := parts_lt_later m (n - m - 1).toNat
    rwa [show m + (((n - m - 1).toNat + 1 : Nat) : Int) = n from by omega] at later
  obtain ⟨m, rfl⟩ : ∃ m, a = dateOfDay m := ⟨_, (dateOfDay_dayNumber realA).symm⟩
  obtain ⟨n, rfl⟩ : ∃ n, b = dateOfDay n := ⟨_, (dateOfDay_dayNumber realB).symm⟩
  rw [(isReal_dateOfDay m).2, (isReal_dateOfDay n).2]
  constructor
  · exact ordered
  · intro before
    rcases Int.lt_trichotomy m n with less | rfl | greater
    · exact less
    · rw [parts_lt_iff] at before
      omega
    · have after := ordered greater
      rw [parts_lt_iff] at before after
      omega

theorem dateTime_parts_lt_iff (d e : DateTime) : d.parts < e.parts ↔ d.date.parts < e.date.parts ∨
    d.date = e.date ∧ (d.time.hour < e.time.hour ∨ d.time.hour = e.time.hour ∧
      (d.time.minute < e.time.minute ∨ d.time.minute = e.time.minute ∧
        (d.time.second < e.time.second ∨ d.time.second = e.time.second ∧
          d.microsecond / 1000 < e.microsecond / 1000))) := by
  obtain ⟨⟨year, month, day⟩, time, microsecond⟩ := d
  obtain ⟨⟨year', month', day'⟩, time', microsecond'⟩ := e
  simp only [DateTime.parts, Date.parts, List.cons_append, List.nil_append, List.cons_lt_cons_iff, Date.mk.injEq,
    List.lt_irrefl, and_false, or_false]
  omega

/-- Real dates with a time of day are ordered, down to the millisecond, as the
    milliseconds that they count to. -/
theorem millis_lt_iff {d e : DateTime} (realD : d.date.IsReal) (realE : e.date.IsReal) (timeD : d.time.InRange)
    (timeE : e.time.InRange) (microsecondsD : 0 ≤ d.microsecond ∧ d.microsecond ≤ 999999)
    (microsecondsE : 0 ≤ e.microsecond ∧ e.microsecond ≤ 999999) : d.millis < e.millis ↔ d.parts < e.parts := by
  have days := dayNumber_lt_iff realD realE
  have same : dayNumber d.date.year d.date.month d.date.day = dayNumber e.date.year e.date.month e.date.day ↔
      d.date = e.date := by
    constructor
    · intro number
      rw [← dateOfDay_dayNumber realD, number, dateOfDay_dayNumber realE]
    · intro date
      rw [date]
  rw [dateTime_parts_lt_iff, ← days, ← same]
  unfold TimeOfDay.InRange at timeD timeE
  simp only [DateTime.millis, DateTime.wholeMillis, dayMillis, millisOfDay]
  omega

end CqlTable.Calendar
