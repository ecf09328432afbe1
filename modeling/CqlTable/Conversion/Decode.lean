import CqlTable.Conversion.Encode

/-!
# Decoding: cells to scalars

A cell is a text; the empty one and the word for null are null in every type.
-/

namespace CqlTable

open Calendar

/-- The number or integer that a cell spells. -/
def decodeInteger (kind : IntegerKind) (text : String) : Conversion Scalar :=
  (readInteger kind text).map fun i =>
    match kind with
    | .bigint => .bigint i
    | _ => .number (Double.ofInt i)

/-- The bytes of hexadecimal text after its mark. -/
def blobBytes? : List Char → Option Bytes
  | '0' :: mark :: ds => if mark = 'x' ∨ mark = 'X' then Text.ofHexChars? ds else none
  | _ => none

/-- The bytes that a cell spells. -/
def decodeBlob (length : Option Nat) (text : String) : Conversion Scalar :=
  match blobBytes? (Text.trimChars text.toList) with
  | some bytes => .ok (.bytes bytes)
  | none => malformed (.blob length) text

/-- Runs of digits with a mark between them, at the front of a text; what
    follows the last is not looked at. -/
def markedNumerals? (mark : Char) : Nat → List Char → Option (List (List Char))
  | 0, _ => some []
  | count + 1, cs =>
    match Text.takeDigits cs with
    | ([], _) => none
    | (ds, rest) =>
      if count = 0 then some [ds]
      else match rest with
        | c :: rest => if c = mark then (markedNumerals? mark count rest).map (ds :: ·) else none
        | [] => none

/-- The date that a cell begins with. The day is at most 31 whatever the
    month. -/
def decodeDate (text : String) : Conversion Scalar :=
  let (negative, rest) := Text.takeSign (text.toList.dropWhile Text.isBlank)
  match markedNumerals? '-' 3 rest with
  | some [year, month, day] =>
    let year := Double.ofDecimal negative (Text.numeralValue year) 0
    let month := Text.numeralValue month
    let day := Text.numeralValue day
    if year.isInteger ∧ 1 ≤ month ∧ month ≤ 12 ∧ 1 ≤ day ∧ day ≤ 31 then
      .ok (.fields [("year", .number year), Fields.entry "month" month, Fields.entry "day" day])
    else outOfRange .date text
  | _ => malformed .date text

/-- The time of day that a cell begins with. -/
def decodeTime (text : String) : Conversion Scalar :=
  match markedNumerals? ':' 3 (text.toList.dropWhile Text.isBlank) with
  | some [hour, minute, second] =>
    let hour := Text.numeralValue hour
    let minute := Text.numeralValue minute
    let second := Text.numeralValue second
    if hour ≤ 23 ∧ minute ≤ 59 ∧ second ≤ 59 then
      .ok (.fields [Fields.entry "hour" hour, Fields.entry "minute" minute, Fields.entry "second" second])
    else outOfRange .time text
  | _ => malformed .time text

/-- The calendar fields in universal time of a cell of milliseconds; any other
    text stays as it is. -/
def decodeTimestamp (text : String) : Conversion Scalar :=
  match Text.integerValue? (Text.trimChars text.toList) with
  | none => .ok (.text text)
  | some millis =>
    if maxMillis < millis.natAbs then outOfRange .timestamp text
    else .ok (.fields (dateTimeOf millis).fields)

/-- The scalar of a cell that is not null. -/
def decodeScalar (type : LogicalType) (text : String) : Conversion Scalar :=
  match type with
  | .integer kind => decodeInteger kind text
  | .floating kind => (readFloating kind text).map .number
  | .blob length => decodeBlob length text
  | .date => decodeDate text
  | .time => decodeTime text
  | .timestamp => decodeTimestamp text
  | .boolean => .ok (.boolean (text = "true" ∨ text = "1"))
  | .decimal _ | .textual _ | .other _ => .ok (.text text)

/-- The scalar or null of a cell of a type. -/
def decode (type : LogicalType) (text : String) : Conversion (Option Scalar) :=
  if text = "NULL" ∨ text = "" then .ok none else (decodeScalar type text).map some

end CqlTable
