import CqlTable.Calendar.Day
import CqlTable.Text.Numeral

/-!
# Instants: milliseconds since the epoch and zones

Instants reach a hundred million days to either side of the epoch. A zone is a
fixed distance from universal time.
-/

namespace CqlTable.Calendar

/-- The greatest distance of an instant from the epoch in milliseconds. -/
def maxMillis : Nat := 8640000000000000

/-- Milliseconds of a day. -/
def dayMillis : Int := 86400000

/-- A point in time, as milliseconds since the epoch. -/
structure Instant where
  millis : Int
  bounded : millis.natAbs ≤ maxMillis
  deriving DecidableEq

/-- The instant of a count of milliseconds within the range. -/
def Instant.ofMillis? (millis : Int) : Option Instant :=
  if h : millis.natAbs ≤ maxMillis then some ⟨millis, h⟩ else none

/-- The zone in which calendar fields are read. -/
inductive Zone
  | local
  | utc
  deriving DecidableEq, Repr

/-- What local time is ahead of universal time, in milliseconds: five hours,
    at all dates. -/
def Zone.ahead : Zone → Int
  | .local => 18000000
  | .utc => 0

/-- A time of day, to the second. -/
structure TimeOfDay where
  hour : Int
  minute : Int
  second : Int
  deriving DecidableEq

/-- A date and a time of day with microseconds. -/
structure DateTime where
  date : Date
  time : TimeOfDay
  microsecond : Int
  deriving DecidableEq

/-- The date and time of day that stand for a count of milliseconds. -/
def dateTimeOf (millis : Int) : DateTime :=
  let ofDay := millis % dayMillis
  ⟨dateOfDay (millis / dayMillis),
    ⟨ofDay / 3600000, ofDay / 60000 % 60, ofDay / 1000 % 60⟩, ofDay % 1000 * 1000⟩

/-- The date and time of day of an instant in a zone. -/
def Instant.dateTime (t : Instant) (zone : Zone) : DateTime := dateTimeOf (t.millis + zone.ahead)

/-- Milliseconds of a time of day; its parts may be past their usual range. -/
def millisOfDay (hour minute second : Int) : Int := 3600000 * hour + 60000 * minute + 1000 * second

/-- The greatest distance of a year from the year zero, in a date that rolls
    over. -/
def maxYear : Nat := 1000000

/-- The greatest distance of a month from the first one, in a date that rolls
    over. -/
def maxMonth : Nat := 10000000

/-- The instant of calendar fields in a zone. The date is fixed first, and a
    date past the range has no instant whatever the time of day, nor has one
    whose year or month is too far off to be counted. -/
def instantOf? (zone : Zone) (year month day hour minute second : Int) : Option Instant :=
  if year.natAbs ≤ maxYear ∧ (month - 1).natAbs ≤ maxMonth then
    let midnight := dayMillis * dayNumberRolling year month day
    match Instant.ofMillis? midnight with
    | none => none
    | some _ => Instant.ofMillis? (midnight + millisOfDay hour minute second - zone.ahead)
  else none

open Text

/-- An integer with its magnitude padded with zeros to a width. -/
def signedPadded (width : Nat) (i : Int) : String :=
  (if i < 0 then "-" else "") ++ padded width i.natAbs

/-- A year of four digits, or of six after a sign. -/
def yearText (year : Int) : String :=
  if 0 ≤ year ∧ year ≤ 9999 then padded 4 year.natAbs
  else (if year < 0 then "-" else "+") ++ padded 6 year.natAbs

/-- The text of an instant in universal time, to the millisecond. -/
def Instant.text (t : Instant) : String :=
  let d := t.dateTime .utc
  yearText d.date.year ++ "-" ++ padded 2 d.date.month.natAbs ++ "-" ++ padded 2 d.date.day.natAbs ++
    "T" ++ padded 2 d.time.hour.natAbs ++ ":" ++ padded 2 d.time.minute.natAbs ++ ":" ++
    padded 2 d.time.second.natAbs ++ "." ++ padded 3 (d.microsecond / 1000).natAbs ++ "Z"

end CqlTable.Calendar
