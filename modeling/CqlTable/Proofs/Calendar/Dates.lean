import CqlTable.Calendar.Day

/-!
# Dates: the days of the calendar and their numbers

A date is real when its day lies within the length of its month. Each day
number belongs to exactly one real date (`isReal_dateOfDay`,
`dateOfDay_dayNumber_iff`), and the date of the next day number is the next
date of the calendar (`dateOfDay_succ`).
-/

namespace CqlTable.Calendar

/-! ## The leap rule -/

/-- The Gregorian leap rule. -/
def IsLeapYear (year : Int) : Prop := year % 4 = 0 ∧ (year % 100 ≠ 0 ∨ year % 400 = 0)

instance (year : Int) : Decidable (IsLeapYear year) := inferInstanceAs (Decidable (_ ∧ _))

/-- The number of days of a month. -/
def monthLength (year month : Int) : Int :=
  if month = 2 then (if IsLeapYear year then 29 else 28)
  else if month = 4 ∨ month = 6 ∨ month = 9 ∨ month = 11 then 30
  else 31

/-- The date is one of the calendar. -/
def Date.IsReal (date : Date) : Prop :=
  1 ≤ date.month ∧ date.month ≤ 12 ∧ 1 ≤ date.day ∧ date.day ≤ monthLength date.year date.month

instance (date : Date) : Decidable date.IsReal := inferInstanceAs (Decidable (_ ∧ _))

/-! ## Years of an era -/

/-- The day of an era on which a year begins. -/
def yearStart (year : Int) : Int := 365 * year + year / 4 - year / 100

/-- The year of an era that a day of the era lies in. -/
def yearOfDay (day : Int) : Int := (day - day / 1460 + day / 36524 - day / 146096) / 365

/-- A day of a year that runs from March; only a year before a leap day has
    the last one. -/
def IsYearDay (year day : Int) : Prop :=
  0 ≤ day ∧ (day ≤ 364 ∨ day = 365 ∧ IsLeapYear (year + 1))

/-- Centuries, fourths and years within them make up an era. -/
private theorem yearOfDay_split {century fourth year day : Int} (centuries : 0 ≤ century ∧ century ≤ 3)
    (fourths : 0 ≤ fourth ∧ fourth ≤ 24) (years : 0 ≤ year ∧ year ≤ 3)
    (days : 0 ≤ day ∧ (day ≤ 364 ∨ day = 365 ∧ year = 3 ∧ (fourth < 24 ∨ century = 3))) :
    yearOfDay (36524 * century + 1461 * fourth + 365 * year + day) = 100 * century + 4 * fourth + year := by
  unfold yearOfDay
  generalize whole : 36524 * century + 1461 * fourth + 365 * year + day = d
  obtain ⟨first, usual | ⟨rfl, rfl, last⟩⟩ := days
  · have centuryOf : d / 36524 = century := by omega
    have eraOf : d / 146096 = 0 := by omega
    omega
  -- The leap day that ends an era is the only one in a last fourth.
  · by_cases final : fourth = 24
    · have centuryIs : century = 3 := by omega
      subst centuryIs final
      subst whole
      decide
    · have centuryOf : d / 36524 = century := by omega
      have eraOf : d / 146096 = 0 := by omega
      omega

theorem yearOfDay_yearStart {year day : Int} (inEra : 0 ≤ year ∧ year < 400) (inYear : IsYearDay year day) :
    yearOfDay (yearStart year + day) = year := by
  unfold IsYearDay IsLeapYear at inYear
  have split : yearOfDay (36524 * (year / 100) + 1461 * (year % 100 / 4) + 365 * (year % 4) + day) =
      100 * (year / 100) + 4 * (year % 100 / 4) + year % 4 :=
    yearOfDay_split (by omega) (by omega) (by omega) (by omega)
  have start : yearStart year + day =
      36524 * (year / 100) + 1461 * (year % 100 / 4) + 365 * (year % 4) + day := by
    unfold yearStart
    omega
  rw [start, split]
  omega

/-- Each day of an era is a day of one of its years. -/
theorem exists_yearDay {d : Int} (inEra : 0 ≤ d ∧ d < 146097) :
    ∃ year day, (0 ≤ year ∧ year < 400) ∧ IsYearDay year day ∧ d = yearStart year + day := by
  -- A fifth century, or fifth year, would begin on the leap day at the end: hence the minima.
  have century : ∃ c r, 0 ≤ c ∧ c ≤ 3 ∧ d = 36524 * c + r ∧ 0 ≤ r ∧ (r ≤ 36523 ∨ r = 36524 ∧ c = 3) :=
    ⟨min 3 (d / 36524), d - 36524 * min 3 (d / 36524), by omega⟩
  obtain ⟨c, r, c0, c3, whole, r0, rEnd⟩ := century
  have year : ∃ k t, 0 ≤ k ∧ k ≤ 3 ∧ r % 1461 = 365 * k + t ∧ 0 ≤ t ∧ (t ≤ 364 ∨ t = 365 ∧ k = 3) :=
    ⟨min 3 (r % 1461 / 365), r % 1461 - 365 * min 3 (r % 1461 / 365), by omega⟩
  obtain ⟨k, t, k0, k3, rest, t0, tEnd⟩ := year
  have fourthOf : (100 * c + 4 * (r / 1461) + k) / 4 = 25 * c + r / 1461 := by omega
  have centuryOf : (100 * c + 4 * (r / 1461) + k) / 100 = c := by omega
  refine ⟨100 * c + 4 * (r / 1461) + k, t, by omega, ?_, ?_⟩
  · unfold IsYearDay IsLeapYear
    omega
  · rw [yearStart, fourthOf, centuryOf]
    omega

/-! ## Months of a year -/

/-- The day of a year on which a month begins, both counted from March. -/
def monthStart (month : Int) : Int := (153 * month + 2) / 5

theorem month_of_yearDay {month day : Int} (inMonth : 0 ≤ day ∧ day < monthStart (month + 1) - monthStart month) :
    (5 * (monthStart month + day) + 2) / 153 = month := by
  unfold monthStart at *
  omega

theorem exists_monthDay {d : Int} (inYear : 0 ≤ d ∧ d ≤ 365) :
    ∃ month day, (0 ≤ month ∧ month ≤ 11) ∧
      (0 ≤ day ∧ day < monthStart (month + 1) - monthStart month) ∧ d = monthStart month + day := by
  refine ⟨(5 * d + 2) / 153, d - monthStart ((5 * d + 2) / 153), by omega, ?_, by omega⟩
  unfold monthStart
  omega

/-- From March on, months have their lengths in every year. -/
theorem monthLength_march {month : Int} (year : Int) (inYear : 0 ≤ month ∧ month ≤ 9) :
    monthLength year (month + 3) = monthStart (month + 1) - monthStart month := by
  have cases : month = 0 ∨ month = 1 ∨ month = 2 ∨ month = 3 ∨ month = 4 ∨ month = 5 ∨ month = 6 ∨
      month = 7 ∨ month = 8 ∨ month = 9 := by omega
  rcases cases with rfl | rfl | rfl | rfl | rfl | rfl | rfl | rfl | rfl | rfl <;> rfl

theorem monthLength_late {month : Int} (year : Int) (late : 3 ≤ month ∧ month ≤ 12) :
    monthLength year month = monthStart (month - 3 + 1) - monthStart (month - 3) := by
  rw [← monthLength_march year (by omega), Int.sub_add_cancel]

/-! ## Dates and day numbers -/

/-- The date of a day that is given by its era, and by its year and month
    counted from March. -/
theorem dateOfDay_parts {era year month day : Int} (inEra : 0 ≤ year ∧ year < 400)
    (inYear : IsYearDay year (monthStart month + day)) (months : 0 ≤ month ∧ month ≤ 11)
    (inMonth : 0 ≤ day ∧ day < monthStart (month + 1) - monthStart month) :
    dateOfDay (146097 * era + (yearStart year + (monthStart month + day)) - 719468) =
      if month < 10 then ⟨400 * era + year, month + 3, day + 1⟩
      else ⟨400 * era + year + 1, month - 9, day + 1⟩ := by
  have bounds : 0 ≤ yearStart year + (monthStart month + day) ∧
      yearStart year + (monthStart month + day) < 146097 := by
    unfold IsYearDay IsLeapYear at inYear
    unfold yearStart
    omega
  have whole : 146097 * era + (yearStart year + (monthStart month + day)) - 719468 + 719468 =
      146097 * era + (yearStart year + (monthStart month + day)) := by omega
  have eraOf : (146097 * era + (yearStart year + (monthStart month + day))) / 146097 = era := by omega
  have dayOfEra : (146097 * era + (yearStart year + (monthStart month + day))) % 146097 =
      yearStart year + (monthStart month + day) := by omega
  have yearOf := yearOfDay_yearStart inEra inYear
  have dayOfYear : yearStart year + (monthStart month + day) -
      (365 * year + year / 4 - year / 100) = monthStart month + day := by
    unfold yearStart
    omega
  have monthOf := month_of_yearDay inMonth
  unfold yearOfDay at yearOf
  simp only [dateOfDay, whole, eraOf, dayOfEra, yearOf, dayOfYear, monthOf]
  have start : monthStart month + day - (153 * month + 2) / 5 + 1 = day + 1 := by
    unfold monthStart
    omega
  rw [start]
  split <;> split <;> simp <;> omega

/-- The year that runs from March, and its month. -/
theorem dayNumber_parts (year month day : Int) :
    dayNumber year month day =
      if month ≤ 2 then 146097 * ((year - 1) / 400) +
        (yearStart ((year - 1) % 400) + (monthStart (month + 9) + (day - 1))) - 719468
      else 146097 * (year / 400) + (yearStart (year % 400) + (monthStart (month - 3) + (day - 1))) - 719468 := by
  unfold dayNumber yearStart monthStart
  split <;> simp only [] <;> omega

/-- The number of a date leads back to it. -/
theorem dateOfDay_dayNumber {date : Date} (isReal : date.IsReal) :
    dateOfDay (dayNumber date.year date.month date.day) = date := by
  obtain ⟨year, month, day⟩ := date
  obtain ⟨first, last, inMonth⟩ : 1 ≤ month ∧ month ≤ 12 ∧ 1 ≤ day ∧ day ≤ monthLength year month := isReal
  rw [dayNumber_parts]
  by_cases early : month ≤ 2
  · unfold monthLength IsLeapYear at inMonth
    simp only [early, ↓reduceIte]
    rw [dateOfDay_parts]
    · have late : ¬ month + 9 < 10 := by omega
      simp only [late, ↓reduceIte, Date.mk.injEq]
      omega
    · omega
    · unfold IsYearDay IsLeapYear monthStart
      omega
    · omega
    · unfold monthStart
      omega
  · rw [monthLength_late year (by omega)] at inMonth
    simp only [early, ↓reduceIte]
    rw [dateOfDay_parts]
    · have soon : month - 3 < 10 := by omega
      simp only [soon, ↓reduceIte, Date.mk.injEq]
      omega
    · omega
    · unfold IsYearDay monthStart at *
      omega
    · omega
    · omega

/-- Every day is the day of a real date. -/
theorem isReal_dateOfDay (n : Int) :
    (dateOfDay n).IsReal ∧ dayNumber (dateOfDay n).year (dateOfDay n).month (dateOfDay n).day = n := by
  have day : 0 ≤ (n + 719468) % 146097 ∧ (n + 719468) % 146097 < 146097 := by omega
  obtain ⟨year, yearDay, inEra, inYear, dayOfEra⟩ := exists_yearDay day
  have bound : 0 ≤ yearDay ∧ yearDay ≤ 365 := by
    unfold IsYearDay at inYear
    omega
  obtain ⟨month, day, months, inMonth, rfl⟩ := exists_monthDay bound
  have whole : n = 146097 * ((n + 719468) / 146097) + (yearStart year + (monthStart month + day)) - 719468 := by
    omega
  generalize (n + 719468) / 146097 = era at whole
  rw [whole, dateOfDay_parts inEra inYear months inMonth]
  by_cases soon : month < 10
  · simp only [soon, ↓reduceIte]
    constructor
    · show 1 ≤ month + 3 ∧ month + 3 ≤ 12 ∧ 1 ≤ day + 1 ∧ day + 1 ≤ monthLength (400 * era + year) (month + 3)
      rw [monthLength_march _ (show 0 ≤ month ∧ month ≤ 9 by omega)]
      omega
    · rw [dayNumber_parts, if_neg (by omega), show month + 3 - 3 = month from by omega,
        show (400 * era + year) / 400 = era from by omega, show (400 * era + year) % 400 = year from by omega]
      omega
  · simp only [soon, ↓reduceIte]
    constructor
    · show 1 ≤ month - 9 ∧ month - 9 ≤ 12 ∧ 1 ≤ day + 1 ∧
        day + 1 ≤ monthLength (400 * era + year + 1) (month - 9)
      unfold IsYearDay IsLeapYear monthStart at *
      unfold monthLength IsLeapYear
      omega
    · rw [dayNumber_parts, if_pos (by omega), show month - 9 + 9 = month from by omega,
        show (400 * era + year + 1 - 1) / 400 = era from by omega,
        show (400 * era + year + 1 - 1) % 400 = year from by omega]
      omega

/-- A date is found again from its day number exactly when it is real. -/
theorem dateOfDay_dayNumber_iff (date : Date) :
    dateOfDay (dayNumber date.year date.month date.day) = date ↔ date.IsReal := by
  constructor
  · intro same
    rw [← same]
    exact (isReal_dateOfDay _).1
  · exact dateOfDay_dayNumber

/-! ## The order of dates -/

/-- The date after a real one. -/
def Date.next (date : Date) : Date :=
  if date.day < monthLength date.year date.month then ⟨date.year, date.month, date.day + 1⟩
  else if date.month < 12 then ⟨date.year, date.month + 1, 1⟩
  else ⟨date.year + 1, 1, 1⟩

theorem monthLength_pos (year month : Int) : 1 ≤ monthLength year month := by
  unfold monthLength
  omega

theorem isReal_iff (year month day : Int) :
    (Date.mk year month day).IsReal ↔ 1 ≤ month ∧ month ≤ 12 ∧ 1 ≤ day ∧ day ≤ monthLength year month :=
  Iff.rfl

theorem isReal_next {date : Date} (isReal : date.IsReal) : date.next.IsReal := by
  obtain ⟨year, month, day⟩ := date
  obtain ⟨first, last, start, inMonth⟩ := (isReal_iff year month day).mp isReal
  by_cases inside : day < monthLength year month
  · simp only [Date.next, inside, ↓reduceIte]
    exact (isReal_iff _ _ _).mpr ⟨first, last, by omega, inside⟩
  · by_cases inYear : month < 12
    · simp only [Date.next, inside, inYear, ↓reduceIte]
      exact (isReal_iff _ _ _).mpr ⟨by omega, inYear, by decide, monthLength_pos _ _⟩
    · simp only [Date.next, inside, inYear, ↓reduceIte]
      exact (isReal_iff _ _ _).mpr ⟨by decide, by decide, by decide, monthLength_pos _ _⟩

theorem february_length (year : Int) : monthLength year 2 = if IsLeapYear year then 29 else 28 := rfl

/-- A year that runs from March ends with the February of the next year. -/
theorem dayNumber_march (year : Int) : dayNumber year 3 1 = dayNumber year 2 (monthLength year 2) + 1 := by
  have era : ∃ e r, year = 400 * e + r ∧ 0 ≤ r ∧ r < 400 := ⟨year / 400, year % 400, by omega⟩
  obtain ⟨e, r, rfl, below, above⟩ := era
  rw [dayNumber_parts, dayNumber_parts, if_neg (by decide), if_pos (by decide), february_length,
    show (400 * e + r) / 400 = e from by omega, show (400 * e + r) % 400 = r from by omega]
  by_cases first : r = 0
  · have leap : IsLeapYear (400 * e + r) := by
      unfold IsLeapYear
      omega
    rw [if_pos leap, first, show (400 * e + 0 - 1) / 400 = e - 1 from by omega,
      show (400 * e + 0 - 1) % 400 = 399 from by omega,
      show yearStart 0 = 0 from rfl, show yearStart 399 = 145731 from rfl,
      show monthStart (3 - 3) = 0 from rfl, show monthStart (2 + 9) = 337 from rfl]
    omega
  · have leap : IsLeapYear (400 * e + r) ↔ r % 4 = 0 ∧ r % 100 ≠ 0 := by
      unfold IsLeapYear
      omega
    have fourths : r / 4 = (r - 1) / 4 + if r % 4 = 0 then 1 else 0 := by omega
    have centuries : r / 100 = (r - 1) / 100 + if r % 100 = 0 then 1 else 0 := by omega
    rw [show (400 * e + r - 1) / 400 = e from by omega, show (400 * e + r - 1) % 400 = r - 1 from by omega,
      show monthStart (3 - 3) = 0 from rfl, show monthStart (2 + 9) = 337 from rfl]
    simp only [yearStart, leap, fourths, centuries]
    omega

/-- The first of a month follows the last of the month before it. -/
theorem dayNumber_month {month : Int} (year : Int) (inYear : 1 ≤ month ∧ month ≤ 11) :
    dayNumber year (month + 1) 1 = dayNumber year month (monthLength year month) + 1 := by
  have cases : month = 1 ∨ month = 2 ∨ 3 ≤ month := by omega
  rcases cases with rfl | rfl | late
  · simp only [dayNumber, monthLength]
    omega
  · exact dayNumber_march year
  · rw [dayNumber_parts, dayNumber_parts, if_neg (by omega), if_neg (by omega),
      monthLength_late year (by omega),
      show month + 1 - 3 = month - 3 + 1 from by omega]
    omega

theorem dayNumber_next {date : Date} (isReal : date.IsReal) :
    dayNumber date.next.year date.next.month date.next.day =
      dayNumber date.year date.month date.day + 1 := by
  obtain ⟨year, month, day⟩ := date
  obtain ⟨first, last, start, inMonth⟩ := (isReal_iff year month day).mp isReal
  by_cases inside : day < monthLength year month
  · simp only [Date.next, inside, ↓reduceIte, dayNumber]
    omega
  · have lastDay : day = monthLength year month := by omega
    by_cases inYear : month < 12
    · simp only [Date.next, inside, inYear, ↓reduceIte]
      rw [lastDay]
      exact dayNumber_month year (by omega)
    · have december : month = 12 := by omega
      simp only [Date.next, inside, inYear, ↓reduceIte]
      subst december
      simp only [lastDay, dayNumber, monthLength]
      omega

/-- The first day is the first of January 1970. -/
theorem dateOfDay_zero : dateOfDay 0 = ⟨1970, 1, 1⟩ := by decide

/-- Dates follow each other as in the calendar. -/
theorem dateOfDay_succ (n : Int) : dateOfDay (n + 1) = (dateOfDay n).next := by
  obtain ⟨isReal, number⟩ := isReal_dateOfDay n
  have same := dateOfDay_dayNumber (isReal_next isReal)
  rwa [dayNumber_next isReal, number] at same

end CqlTable.Calendar
