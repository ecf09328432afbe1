import CqlTable.Calendar.DateToken
import CqlTable.Calendar.Instant

/-!
# Date texts: instants written with calendar fields

A text that begins with a year of four digits, or of six after a sign, is read
strictly: month and day in two digits, and a time after the letter `T`. Without
a time it is in universal time, and with a time and no offset in local time.

Every other text, one with a space before the time as well, is read loosely,
part after part: numbers with colons are the time of day, other numbers the
date, and words are names of months, zones and halves of the day. It is in
local time unless it names a zone. A loose year below a hundred is one of the
years from 1950 to 2049.
-/

namespace CqlTable.Calendar

/-- A time of day within its ranges; midnight may be written as the end of the
    day. -/
def clockValid (hour minute second ms : Nat) : Bool :=
  (hour ≤ 23 && minute ≤ 59 && second ≤ 59 && ms ≤ 999) ||
    (hour = 24 && minute = 0 && second = 0 && ms = 0)

/-- Milliseconds of a date and time of day at a distance from universal time,
    if they are within their ranges. -/
def millisOfFields? (year month day : Int) (hour minute second ms : Nat) (ahead : Int) : Option Int :=
  if 1 ≤ month ∧ month ≤ 12 ∧ 1 ≤ day ∧ day ≤ 31 ∧ clockValid hour minute second ms then
    (Instant.ofMillis?
      (dayMillis * dayNumber year month day + millisOfDay hour minute second + ms - ahead)).map (·.millis)
  else none

/-- Milliseconds of a fraction of a second. Of its width, nine digits count. -/
def fractionMillis (value width : Nat) : Nat := value * 1000 / Nat.pow 10 (min width 9)

/-! ## Strict texts -/

/-- The date at the head of a text: its parts from the year on, whether they
    end as a date may end, and what follows. -/
structure DateHead where
  parts : List Int
  whole : Bool
  rest : List DateToken

/-- A part of a date before the smaller ones. -/
def DateHead.cons (n : Int) (head : DateHead) : DateHead := { head with parts := n :: head.parts }

/-- A part of two digits after a hyphen, from one to its greatest, and the
    smaller ones behind it. The part may be left out with its hyphen. -/
def partHead (greatest : Nat) (smaller : List DateToken → DateHead) : List DateToken → DateHead
  | .sign true :: .number n 2 :: rest =>
    if 1 ≤ n ∧ n ≤ greatest then (smaller rest).cons n else ⟨[], false, .number n 2 :: rest⟩
  | .sign true :: rest => ⟨[], false, rest⟩
  | rest => ⟨[], true, rest⟩

/-- What may follow a year: a month, and a day. -/
def monthHead : List DateToken → DateHead := partHead 12 (partHead 31 (⟨[], true, ·⟩))

/-- The date at the head of a text. A negative year zero is left out, and only
    its sign is kept. -/
def dateHead : List DateToken → DateHead
  | .number n 4 :: rest => (monthHead rest).cons n
  | .sign negative :: .number n 6 :: rest =>
    if negative then
      if n = 0 then ⟨[], false, .sign negative :: rest⟩ else (monthHead rest).cons (-n)
    else (monthHead rest).cons n
  | rest => ⟨[], false, rest⟩

/-- An offset of hours and minutes of the day, in milliseconds. -/
def offsetOf? (negative : Bool) (hour minute : Nat) : Option Int :=
  if hour ≤ 23 ∧ minute ≤ 59 then
    some (if negative then -millisOfDay hour minute 0 else millisOfDay hour minute 0)
  else none

/-- What the zone at the end of a text is ahead of universal time, in
    milliseconds: local time for a text that does not name one. -/
def strictOffset? : List DateToken → Option Int
  | [] => some Zone.local.ahead
  | [.word (.zone _) 1] => some 0
  | [.sign negative, .number n 4] => offsetOf? negative (n / 100) (n % 100)
  | [.sign negative, .number hour 2, .colon, .number minute 2] => offsetOf? negative hour minute
  | _ => none

/-- Milliseconds of a date and a time of day with the text of its zone. -/
def ofStrictZone? (year month day : Int) (hour minute second ms : Nat) (zone : List DateToken) : Option Int :=
  (strictOffset? zone).bind (millisOfFields? year month day hour minute second ms)

/-- Milliseconds of a date with the text of its time of day, whose seconds and
    their fraction may be left out. -/
def ofStrictTime? (year month day : Int) : List DateToken → Option Int
  | .number hour 2 :: .colon :: .number minute 2 :: .colon :: .number second 2 :: .point ::
      .number fraction width :: zone =>
    if hour = 24 ∧ fraction ≠ 0 then none
    else ofStrictZone? year month day hour minute second (fractionMillis fraction width) zone
  | .number hour 2 :: .colon :: .number minute 2 :: .colon :: .number second 2 :: zone =>
    ofStrictZone? year month day hour minute second 0 zone
  | .number hour 2 :: .colon :: .number minute 2 :: zone => ofStrictZone? year month day hour minute 0 0 zone
  | _ => none

/-! ## Loose texts -/

/-- An offset from universal time. The minutes may be still to come. -/
structure LooseOffset where
  negative : Bool
  hour : Nat
  minute : Option Nat

/-- The offset of a whole number of hours. -/
def LooseOffset.ofHours (hours : Int) : LooseOffset := ⟨hours < 0, hours.natAbs, some 0⟩

/-- Milliseconds of an offset. Its seconds are counted in thirty-two bits, and
    must fit into thirty-one. -/
def LooseOffset.millis? (offset : LooseOffset) : Option Int :=
  let seconds := (3600 * offset.hour + 60 * offset.minute.getD 0) % 4294967296
  if seconds ≤ 2147483647 then some (if offset.negative then -(1000 * seconds) else 1000 * seconds) else none

/-- What a loose text has named so far: numbers of a date, a month, parts of a
    time of day from the hour on, a half of the day and an offset. `started`
    says whether a number was read. -/
structure LooseDate where
  days : List Int
  month : Option Nat
  clock : List Nat
  half : Option Nat
  offset : Option LooseOffset
  started : Bool

namespace LooseDate

/-- A text of which the numbers of a date were read. -/
def ofDays (days : List Int) : LooseDate := ⟨days, none, [], none, none, !days.isEmpty⟩

/-- The next part of the time of day is open to the number. -/
def expectsClock (d : LooseDate) (n : Nat) : Bool :=
  match d.clock.length with
  | 1 | 2 => n ≤ 59
  | 3 => n ≤ 999
  | _ => false

/-- The minutes of the offset are open to the number. -/
def expectsMinute (d : LooseDate) (n : Nat) : Bool :=
  match d.offset with
  | some ⟨_, _, none⟩ => n ≤ 59
  | _ => false

/-- The offset is that of universal time. -/
def atUniversal (d : LooseDate) : Bool :=
  match d.offset with
  | some ⟨_, 0, some 0⟩ => true
  | _ => false

/-- A number of the date; there are three at most. -/
def addDay? (d : LooseDate) (n : Nat) : Option LooseDate :=
  if d.days.length < 3 then some { d with days := d.days ++ [(n : Int)], started := true } else none

/-- A part of the time of day before others; there are four at most. -/
def addClock? (d : LooseDate) (n : Nat) : Option LooseDate :=
  if d.clock.length < 4 then some { d with clock := d.clock ++ [n], started := true } else none

/-- The last parts of the time of day; those that are left out are zero. -/
def endClock (d : LooseDate) (last : List Nat) : LooseDate :=
  { d with clock := (d.clock ++ last ++ [0, 0, 0]).take 4, started := true }

/-- The minutes of the offset. -/
def setMinute (d : LooseDate) (n : Nat) : LooseDate :=
  { d with offset := d.offset.map ({ · with minute := some n }), started := true }

/-- An offset. -/
def setOffset (d : LooseDate) (offset : LooseOffset) : LooseDate :=
  { d with offset := some offset, started := true }

/-- What may stand behind the time of day. -/
def endsClock : List DateToken → Bool
  | [] | .blank :: _ | .sign _ :: _ | .word (.zone _) 1 :: _ => true
  | _ => false

/-- A number begins the text. -/
def startsWithNumber : List DateToken → Bool
  | .number _ _ :: _ => true
  | _ => false

/-- A word that names nothing is passed by before the first number, unless the
    number follows it at once. -/
def mayPass (d : LooseDate) (rest : List DateToken) : Bool := !d.started && !startsWithNumber rest

/-- What a loose text names. A number before a colon is part of the time of
    day, and so is one that ends it. A number behind a sign is an offset when
    the text has a time or is in universal time. All other numbers are of the
    date, which a hyphen may follow. -/
def read? (d : LooseDate) : List DateToken → Option LooseDate
  | [] => some d
  | .number n _ :: .colon :: .colon :: rest =>
    if d.clock.isEmpty then read? { d with clock := [n, 0], started := true } rest else none
  | .number n _ :: .colon :: .point :: rest => (d.addClock? n).bind fun d => read? d rest
  | .number n _ :: .colon :: rest => (d.addClock? n).bind fun d => read? d rest
  | .number n _ :: .point :: rest =>
    if d.expectsClock n then
      match rest with
      | .number fraction width :: rest => read? (d.endClock [n, fractionMillis fraction width]) rest
      | _ => none
    else if d.expectsMinute n then read? (d.setMinute n) rest
    else (d.addDay? n).bind fun d =>
      match rest with
      | .sign true :: rest => read? d rest
      | rest => read? d rest
  | .number n _ :: rest =>
    if d.expectsMinute n then read? (d.setMinute n) rest
    else if d.expectsClock n then
      if endsClock rest then read? (d.endClock [n]) rest else none
    else (d.addDay? n).bind fun d =>
      match rest with
      | .sign true :: rest => read? d rest
      | rest => read? d rest
  | .word (.month m) _ :: .sign true :: rest => read? { d with month := some m } rest
  | .word (.month m) _ :: rest => read? { d with month := some m } rest
  | .word (.half hours) _ :: rest =>
    if d.clock.isEmpty then if d.mayPass rest then read? d rest else none
    else read? { d with half := some hours } rest
  | .word (.zone hours) _ :: rest =>
    if d.started then read? (d.setOffset (.ofHours hours)) rest
    else if d.mayPass rest then read? d rest else none
  | .word _ _ :: rest => if d.mayPass rest then read? d rest else none
  | .sign negative :: rest =>
    if d.atUniversal || !d.clock.isEmpty then
      match rest with
      | .colon :: rest => read? (d.setOffset ⟨negative, 0, none⟩) rest
      | .number n _ :: .colon :: rest => read? (d.setOffset ⟨negative, n, none⟩) rest
      | .number n width :: rest =>
        if width ≤ 2 then read? (d.setOffset ⟨negative, n, some 0⟩) rest
        else if width ≤ 4 then read? (d.setOffset ⟨negative, n / 100, some (n % 100)⟩) rest
        else none
      | _ => none
    else if d.started then none
    else read? d rest
  | .closing :: rest => if d.started then none else read? d rest
  | _ :: rest => read? d rest

/-- A number that can be the day of a month. -/
def isDay (n : Int) : Bool := 1 ≤ n && n ≤ 31

/-- A year of two digits stands for one from 1950 to 2049. -/
def fullYear (year : Int) : Int :=
  if 0 ≤ year ∧ year ≤ 49 then year + 2000 else if 50 ≤ year ∧ year ≤ 99 then year + 1900 else year

/-- Year, month and day. With a named month the day comes first if it can be
    one, and otherwise the year. Without one the order is month, day and year
    if the first can be a day, and otherwise year, month and day. Numbers that
    are left out are one. -/
def date? (d : LooseDate) : Option Date :=
  match d.days with
  | [] => none
  | first :: others =>
    let second := others.getD 0 1
    let third := others.getD 1 1
    match d.month with
    | some month =>
      some (if isDay first then ⟨fullYear second, month, first⟩ else ⟨fullYear first, month, second⟩)
    | none =>
      some (if isDay first then ⟨fullYear third, first, second⟩ else ⟨fullYear first, second, third⟩)

/-- The hour of a half of the day. -/
def hour? (d : LooseDate) : Option Nat :=
  let hour := d.clock.getD 0 0
  match d.half with
  | none => some hour
  | some hours => if hour ≤ 12 then some (hour % 12 + hours) else none

/-- What the zone of a text is ahead of universal time, in milliseconds: local
    time for a text that does not name one. -/
def ahead? (d : LooseDate) : Option Int :=
  match d.offset with
  | some offset => offset.millis?
  | none => some Zone.local.ahead

/-- Milliseconds of what a text names. -/
def millis? (d : LooseDate) : Option Int :=
  match d.date?, d.hour?, d.ahead? with
  | some date, some hour, some ahead =>
    millisOfFields? date.year date.month date.day hour (d.clock.getD 1 0) (d.clock.getD 2 0)
      (d.clock.getD 3 0) ahead
  | _, _, _ => none

end LooseDate

/-! ## All texts -/

/-- Milliseconds since the epoch of a date text. -/
def ofDateText? (cs : List Char) : Option Int :=
  let head := dateHead (dateTokens cs)
  match head.whole, head.parts, head.rest with
  | true, year :: others, [] => millisOfFields? year (others.getD 0 1) (others.getD 1 1) 0 0 0 0 0
  | true, year :: others, .word .time _ :: rest => ofStrictTime? year (others.getD 0 1) (others.getD 1 1) rest
  | _, days, rest => ((LooseDate.ofDays days).read? rest).bind LooseDate.millis?

end CqlTable.Calendar
