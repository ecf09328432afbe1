import CqlTable.Calendar.Instant
import CqlTable.Number.Places
import CqlTable.Text.Hex
import CqlTable.Text.Pieces

/-!
# Driver cells: values of the client as texts

Each value that the client hands over has one text, which the decoders read.
Timestamps become milliseconds since the epoch, truth values digits and bytes
hexadecimal text. Collections have no text of their own.
-/

namespace CqlTable

open Calendar Text

/-- A date of the client: one of the calendar, or a day number past the range
    of instants. -/
inductive LocalDate
  | date (date : Date)
  | day (number : Int)
  deriving DecidableEq

/-- A value of the client. -/
inductive DriverCell
  | null
  | text (s : String)
  | boolean (b : Bool)
  | number (d : Double)
  | bigint (i : Int)
  | instant (t : Option Instant)
  | bytes (b : Bytes)
  | localDate (date : LocalDate)
  | localTime (nanoseconds : Nat)
  | bigDecimal (unscaled scale : Int)
  | uuid (b : Bytes)
  | address (b : Bytes)
  | duration (months days nanoseconds : Int)
  | unsupported

/-- The greatest distance of a day with a date from the epoch. -/
def maxDay : Nat := 100000000

/-- The date of a day number, unless it is past the range. -/
def LocalDate.ofDay (number : Int) : LocalDate :=
  if number.natAbs ≤ maxDay then .date (dateOfDay number) else .day number

/-- The date of year, month and day; days and months past their range roll
    over. -/
def LocalDate.ofFields (year month day : Int) : LocalDate :=
  .date (dateOfDay (dayNumberRolling year month day))

/-- The text of a date: a year of four digits or more, month and day. -/
def LocalDate.text : LocalDate → String
  | date d => signedPadded 4 d.year ++ "-" ++ signedPadded 2 d.month ++ "-" ++ signedPadded 2 d.day
  | day number => integer number

/-- The text of a time of day to the microsecond. -/
def localTimeText (nanoseconds : Nat) : String :=
  let seconds := nanoseconds / 1000000000
  padded 2 (seconds / 3600) ++ ":" ++ padded 2 (seconds / 60 % 60) ++ ":" ++ padded 2 (seconds % 60) ++
    "." ++ padded 6 (nanoseconds / 1000 % 1000000)

/-- The text of a decimal: an integer with its last `scale` digits after a
    point. A negative scale puts the point behind all digits. -/
def bigDecimalText (unscaled scale : Int) : String :=
  (if unscaled < 0 then "-" else "") ++ String.ofList
    (if scale < 0 then numeralChars unscaled.natAbs ++ ['.']
    else Number.fixedChars unscaled.natAbs scale.toNat)

/-- The text of a sixteen byte identifier, in five groups. -/
def uuidText (bytes : Bytes) : String :=
  join "-" [hex (bytes.take 4), hex ((bytes.drop 4).take 2), hex ((bytes.drop 6).take 2),
    hex ((bytes.drop 8).take 2), hex (bytes.drop 10)]

/-! ## Addresses -/

/-- Pairs of bytes as numbers. -/
def bytePairs : Bytes → List Nat
  | a :: b :: rest => (256 * a.toNat + b.toNat) :: bytePairs rest
  | _ => []

/-- A number below two to the sixteenth in hexadecimal, without leading
    zeros. -/
def hexGroup (n : Nat) : String :=
  let ds := [n / 4096, n / 256 % 16, n / 16 % 16, n % 16]
  String.ofList ((match ds.dropWhile (· == 0) with
    | [] => [0]
    | ds => ds).map hexDigit)

/-- A stretch of groups: the first of them and their number. -/
structure Stretch where
  start : Nat
  length : Nat
  deriving DecidableEq

/-- A search for the stretch of groups that an address leaves out: where the
    open stretch starts, if there is one, and the longest that was closed. -/
structure ZeroSearch where
  opened : Option Nat
  longest : Stretch

/-- The open stretch ends before `position` when that makes it longer than the
    longest so far. A stretch that is no longer stays open. -/
def ZeroSearch.close (position : Nat) (search : ZeroSearch) : ZeroSearch :=
  match search.opened with
  | some start =>
    if search.longest.length < position - start then ⟨none, ⟨start, position - start⟩⟩ else search
  | none => search

/-- The search through the groups from `position` on. A zero opens a stretch
    when none is open; every other group, and a zero at the end, may close it.
    So a stretch starts with a zero, and may run over other groups when it
    was left open. -/
def ZeroSearch.run (search : ZeroSearch) (position : Nat) : List Nat → Stretch
  | [] => search.longest
  | 0 :: rest =>
    let within : ZeroSearch := ⟨some (search.opened.getD position), search.longest⟩
    (if rest.isEmpty then within.close (position + 1) else within).run (position + 1) rest
  | _ :: rest => (search.close position).run (position + 1) rest

/-- The stretch of groups that an address leaves out, of no length when no
    group is zero. -/
def leftOut (groups : List Nat) : Stretch := (ZeroSearch.mk none ⟨0, 0⟩).run 0 groups

/-- The text of an address of sixteen bytes: its groups, two colons for the
    stretch that is left out. -/
def wideAddressText (groups : List Nat) : String :=
  let out := leftOut groups
  if out.length = 0 then join ":" (groups.map hexGroup)
  else
    join ":" ((groups.take out.start).map hexGroup) ++ "::" ++
      join ":" ((groups.drop (out.start + out.length)).map hexGroup)

/-- The text of an address of four or sixteen bytes. -/
def addressText (bytes : Bytes) : String :=
  if bytes.length = 4 then join "." (bytes.map fun b => numeral b.toNat)
  else wideAddressText (bytePairs bytes)

/-! ## Durations -/

/-- An amount with its unit; zero has no text. -/
def part (amount : Nat) (unit : String) : String :=
  if amount = 0 then "" else numeral amount ++ unit

/-- Years of a count of months: none below a year, and otherwise the nearest
    number of years, a half counting up. -/
def yearsOfMonths (months : Nat) : Nat := if months < 12 then 0 else (months + 6) / 12

/-- The signed count that sixty-four bits hold of an integer. -/
def signed64 (i : Int) : Int := i.bmod 18446744073709551616

/-- The magnitude of a signed count of sixty-four bits. The least count has
    none within the width, and stands for nothing. -/
def magnitude64 (i : Int) : Nat := if i = -9223372036854775808 then 0 else i.natAbs

/-- The text of a duration: a minus sign when any part is negative, then the
    parts without signs. -/
def durationText (months days nanoseconds : Int) : String :=
  let count := signed64 nanoseconds
  let n := magnitude64 count
  (if months < 0 ∨ days < 0 ∨ count < 0 then "-" else "") ++
    part (yearsOfMonths months.natAbs) "y" ++ part (months.natAbs % 12) "mo" ++ part days.natAbs "d" ++
    part (n / 3600000000000) "h" ++ part (n / 60000000000 % 60) "m" ++ part (n / 1000000000 % 60) "s" ++
    part (n / 1000000 % 1000) "ms" ++ part (n / 1000 % 1000) "us" ++ part (n % 1000) "ns"

/-! ## All cells -/

/-- The cell of a value without a text of its own. -/
def unsupportedCell : String := "[UNSUPPORTED_TYPE]"

/-- The text of a value of the client. -/
def DriverCell.format : DriverCell → String
  | null => "NULL"
  | text s => s
  | boolean b => if b then "1" else "0"
  | number d => d.text
  | bigint i => integer i
  | instant (some t) => integer t.millis
  | instant none => "NaN"
  | bytes b => "0x" ++ hex b
  | localDate date => date.text
  | localTime nanoseconds => localTimeText nanoseconds
  | bigDecimal unscaled scale => bigDecimalText unscaled scale
  | uuid b => uuidText b
  | address b => addressText b
  | duration months days nanoseconds => durationText months days nanoseconds
  | unsupported => unsupportedCell

end CqlTable
