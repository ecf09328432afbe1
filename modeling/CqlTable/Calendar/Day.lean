/-!
# Days: calendar dates and day numbers

Days are numbered from the first of January 1970. The Gregorian leap rule
holds for all years, the year zero and negative ones included.
-/

namespace CqlTable.Calendar

/-- A date of the calendar. -/
structure Date where
  year : Int
  month : Int
  day : Int
  deriving DecidableEq

/-- The number of the day `day` of a month between 1 and 12. Years run from
    March here, so that the leap day comes last; days past the month's end
    count on into the next. -/
def dayNumber (year month day : Int) : Int :=
  let y := if month ≤ 2 then year - 1 else year
  let m := if month ≤ 2 then month + 9 else month - 3
  let era := y / 400
  let yearOfEra := y % 400
  let dayOfYear := (153 * m + 2) / 5 + day - 1
  146097 * era + 365 * yearOfEra + yearOfEra / 4 - yearOfEra / 100 + dayOfYear - 719468

/-- The number of a day of any month, also one before the first or after the
    twelfth. -/
def dayNumberRolling (year month day : Int) : Int :=
  dayNumber (year + (month - 1) / 12) ((month - 1) % 12 + 1) day

/-- The date of a day number. -/
def dateOfDay (n : Int) : Date :=
  let z := n + 719468
  let era := z / 146097
  let dayOfEra := z % 146097
  let yearOfEra := (dayOfEra - dayOfEra / 1460 + dayOfEra / 36524 - dayOfEra / 146096) / 365
  let dayOfYear := dayOfEra - (365 * yearOfEra + yearOfEra / 4 - yearOfEra / 100)
  let m := (5 * dayOfYear + 2) / 153
  let month := if m < 10 then m + 3 else m - 9
  let y := yearOfEra + 400 * era
  ⟨if month ≤ 2 then y + 1 else y, month, dayOfYear - (153 * m + 2) / 5 + 1⟩

end CqlTable.Calendar
