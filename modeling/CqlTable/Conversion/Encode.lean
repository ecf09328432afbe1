import CqlTable.Calendar.DateText
import CqlTable.Conversion.Literal
import CqlTable.Fault
import CqlTable.Number.Places
import CqlTable.Value.Scalar

/-!
# Encoding: scalars to literals

Each type takes the scalars that it can hold and refuses the others. A value of
the right kind may still be malformed or out of range.
-/

namespace CqlTable

open Calendar

/-- A conversion that may fail. -/
abbrev Conversion (α : Type) := Except ConversionError α

/-- Conversion errors as faults. -/
def Conversion.orFault {α : Type} : Conversion α → Except Fault α
  | .ok a => .ok a
  | .error e => .error (.conversion e)

/-- A value outside the range of a type. -/
def outOfRange {α : Type} (type : LogicalType) (input : String) : Conversion α :=
  .error ⟨.outOfRange, .type type, input, none⟩

/-- A text that does not spell a value of a type. -/
def malformed {α : Type} (type : LogicalType) (input : String) : Conversion α :=
  .error ⟨.malformed, .type type, input, none⟩

/-- A value of a kind that a type cannot hold. -/
def unencodable {α : Type} (type : LogicalType) (input : String) : Conversion α :=
  .error ⟨.unencodable, .type type, input, none⟩

/-! ## Numbers -/

/-- The integer that a text spells, within the width of a type. -/
def readInteger (kind : IntegerKind) (text : String) : Conversion Int :=
  match Text.integerValue? (Text.trimChars text.toList) with
  | none => malformed (.integer kind) text
  | some i => if kind.holds i then .ok i else outOfRange (.integer kind) text

/-- The literal of an integer within the width of a type. -/
def integerLiteral (kind : IntegerKind) (i : Int) : Conversion Literal :=
  if kind.holds i then .ok (.bare (Text.integer i)) else outOfRange (.integer kind) (Text.integer i)

/-- An integer: a number without a fraction, an integer or a text that spells
    one. -/
def encodeInteger (kind : IntegerKind) (s : Scalar) : Conversion Literal :=
  match s with
  | .bigint i => integerLiteral kind i
  | .number d =>
    match d.toInt? with
    | some i => integerLiteral kind i
    | none => malformed (.integer kind) d.text
  | .text text => (readInteger kind text).map fun i => .bare (Text.integer i)
  | s => unencodable (.integer kind) s.shown

/-- The floating point number that a text spells. Finite numerals past the
    range are refused. -/
def readFloating (kind : FloatKind) (text : String) : Conversion Double :=
  let trimmed := Text.trimChars text.toList
  match Number.nonFinite? trimmed with
  | some d => .ok d
  | none =>
    match Number.ofText? trimmed with
    | none => malformed (.floating kind) text
    | some d =>
      let result := match kind with
        | .float => d.toSingle
        | .double => d
      if result.isFinite then .ok result else outOfRange (.floating kind) text

/-- The double that a scalar stands for. -/
def floatingValue (kind : FloatKind) (s : Scalar) : Conversion Double :=
  match s with
  | .number d => .ok d
  | .bigint i => .ok (Double.ofInt i)
  | .text text => readFloating kind text
  | s => unencodable (.floating kind) s.shown

/-- Significant digits of single precision literals. -/
def singleDigits : Nat := 15

/-- A floating point number: fifteen significant digits of the nearest single,
    or the shortest numeral of a double. -/
def encodeFloating (kind : FloatKind) (s : Scalar) : Conversion Literal :=
  match floatingValue kind s with
  | .error e => .error e
  | .ok d =>
    match kind with
    | .float =>
      if d.isFinite ∧ ¬ d.toSingle.isFinite then outOfRange (.floating .float) d.text
      else .ok (.bare (d.toSingle.generalText singleDigits))
    | .double => .ok (.bare d.text)

/-- Digits with an optional fraction and exponent, after an optional minus
    sign. -/
def isDecimalText (cs : List Char) : Bool :=
  let cs := match cs with
    | '-' :: rest => rest
    | cs => cs
  match Text.takeDigits cs with
  | ([], _) => false
  | (_, '.' :: rest) =>
    match Text.takeDigits rest with
    | ([], _) => false
    | (_, rest) => (Number.exponentPart? rest).isSome
  | (_, rest) => (Number.exponentPart? rest).isSome

/-- A decimal number: it is written as it is given. -/
def encodeDecimal (scale : Nat) (s : Scalar) : Conversion Literal :=
  let written (text : String) : Conversion Literal :=
    if isDecimalText text.toList then .ok (.bare text) else malformed (.decimal scale) text
  match s with
  | .text text => written text
  | .bigint i => written (Text.integer i)
  | .number d => if d.isFinite then written d.text else unencodable (.decimal scale) d.text
  | s => unencodable (.decimal scale) s.shown

/-! ## Text, bytes and truth values -/

/-- A text: also of numbers, truth values and bytes in UTF-8. -/
def encodeText (type : LogicalType) (s : Scalar) : Conversion Literal :=
  match s with
  | .text text => .ok (.quoted text)
  | .bytes bytes => .ok (.quoted (Text.ofUtf8 bytes))
  | .number _ | .bigint _ | .boolean _ => .ok (.quoted s.shown)
  | s => unencodable type s.shown

/-- A byte string of at most the declared length. -/
def encodeBlob (length : Option Nat) (s : Scalar) : Conversion Literal :=
  match s with
  | .bytes bytes =>
    if (length.map fun most => decide (most < bytes.length)) = some true then
      outOfRange (.blob length) s.shown
    else .ok (.bare ("0x" ++ Text.hex bytes))
  | s => unencodable (.blob length) s.shown

/-- A truth value; a number is true unless it is zero. -/
def encodeBoolean (s : Scalar) : Conversion Literal :=
  let literal (b : Bool) : Conversion Literal := .ok (.bare (if b then "true" else "false"))
  match s with
  | .boolean b => literal b
  | .number d => literal !d.isZero
  | .bigint i => literal (i ≠ 0)
  | s => unencodable .boolean s.shown

/-! ## Dates and times -/

/-- A number with its magnitude padded with zeros to a width. -/
def paddedNumber (width : Nat) (d : Double) : String :=
  (if d.below 0 then "-" else "") ++ String.ofList (Text.padZeros width d.abs.text.toList)

/-- Year, month and day of fields; the day is at most 31 whatever the month. -/
def dateOfFields? (fields : Fields) : Option (Double × Int × Int) :=
  match fields.field "year", (fields.field "month").within? 1 12, (fields.field "day").within? 1 31 with
  | .number year, some month, some day => if year.isInteger then some (year, month, day) else none
  | _, _, _ => none

/-- The time of day of three fields. -/
def timeOfMembers? (hour minute second : Member) : Option TimeOfDay :=
  match hour.within? 0 23, minute.within? 0 59, second.within? 0 59 with
  | some hour, some minute, some second => some ⟨hour, minute, second⟩
  | _, _, _ => none

/-- The text of a date whose year is already written. -/
def dateText (year : String) (month day : Int) : String :=
  year ++ "-" ++ signedPadded 2 month ++ "-" ++ signedPadded 2 day

/-- The text of a time of day. -/
def timeText (time : TimeOfDay) : String :=
  signedPadded 2 time.hour ++ ":" ++ signedPadded 2 time.minute ++ ":" ++ signedPadded 2 time.second

/-- The literal of the date that fields hold, if it is within the ranges. -/
def dateLiteral (members : Fields) (shown : String) : Conversion Literal :=
  match dateOfFields? members with
  | some (year, month, day) => .ok (.quoted (dateText (paddedNumber 4 year) month day))
  | none => outOfRange .date shown

/-- The literal of the time of day that fields hold, if it is within the
    ranges. -/
def timeLiteral (members : Fields) (shown : String) : Conversion Literal :=
  match timeOfMembers? (members.field "hour") (members.field "minute") (members.field "second") with
  | some time => .ok (.quoted (timeText time))
  | none => outOfRange .time shown

/-- A date: that of an instant in a zone, or of fields with a year. -/
def encodeDate (zone : Zone) (s : Scalar) : Conversion Literal :=
  match s with
  | .instant t => dateLiteral (t.dateTime zone).fields s.shown
  | .invalidInstant => malformed .date s.shown
  | .fields members => if members.has "year" then dateLiteral members s.shown else unencodable .date s.shown
  | s => unencodable .date s.shown

/-- A time of day: that of an instant in a zone, or of fields with an hour. -/
def encodeTime (zone : Zone) (s : Scalar) : Conversion Literal :=
  match s with
  | .instant t => timeLiteral (t.dateTime zone).fields s.shown
  | .invalidInstant => malformed .time s.shown
  | .fields members => if members.has "hour" then timeLiteral members s.shown else unencodable .time s.shown
  | s => unencodable .time s.shown

/-- A field where null and absence stand for zero. -/
def Fields.fieldOrZero (name : String) (fields : Fields) : Member :=
  match fields.field name with
  | .missing | .null => .number (.signedZero false)
  | member => member

/-- Milliseconds since the epoch of fields in a zone. Fields past their usual
    range roll over; there is no number for a date past the range of
    instants. -/
def Fields.epochMillis (zone : Zone) (fields : Fields) : Double :=
  let year := (fields.field "year").amount
  let month := (fields.field "month").amount
  let day := (fields.field "day").amount
  let hour := (fields.fieldOrZero "hour").amount
  let minute := (fields.fieldOrZero "minute").amount
  let second := (fields.fieldOrZero "second").amount
  let microsecond := (fields.fieldOrZero "microsecond").amount
  if [year, month, day, hour, minute, second].all Double.isFinite then
    match instantOf? zone (Double.truncate year.value) (Double.truncate (month.sub (.ofNat 1)).value + 1)
        (Double.truncate day.value) (Double.truncate hour.value) (Double.truncate minute.value)
        (Double.truncate second.value) with
    | some t => (Double.ofInt t.millis).add (microsecond.divTruncate 1000)
    | none => .nan
  else .nan

/-- A timestamp: an instant, milliseconds since the epoch, a date text, or
    fields with a year. -/
def encodeTimestamp (zone : Zone) (s : Scalar) : Conversion Literal :=
  match s with
  | .instant t => .ok (.bare (Text.integer t.millis))
  | .invalidInstant => malformed .timestamp s.shown
  | .number _ | .bigint _ => encodeInteger .bigint s
  | .text text =>
    let trimmed := Text.trimChars text.toList
    match Text.integerValue? trimmed with
    | some _ => encodeInteger .bigint (.text (String.ofList trimmed))
    | none =>
      match ofDateText? trimmed with
      | some millis => .ok (.bare (Text.integer millis))
      | none => malformed .timestamp text
  | .fields members =>
    if members.has "year" then
      match dateOfFields? members,
          timeOfMembers? (members.fieldOrZero "hour") (members.fieldOrZero "minute")
            (members.fieldOrZero "second"),
          (members.fieldOrZero "microsecond").within? 0 999999 with
      | some _, some _, some _ =>
        match members.epochMillis zone with
        | .nan => outOfRange .timestamp s.shown
        | millis => .ok (.bare millis.text)
      | _, _, _ => outOfRange .timestamp s.shown
    else unencodable .timestamp s.shown
  | s => unencodable .timestamp s.shown

/-! ## All types -/

/-- The literal of a scalar of a type. -/
def encodeScalar (zone : Zone) (type : LogicalType) (s : Scalar) : Conversion Literal :=
  match type with
  | .integer kind => encodeInteger kind s
  | .floating kind => encodeFloating kind s
  | .decimal scale => encodeDecimal scale s
  | .blob length => encodeBlob length s
  | .date => encodeDate zone s
  | .time => encodeTime zone s
  | .timestamp => encodeTimestamp zone s
  | .boolean => encodeBoolean s
  | .textual _ | .other _ => encodeText type s

/-- The literal of a value of a type. Null and missing values of all types are
    null. -/
def encode (zone : Zone) (type : LogicalType) (v : Value) : Conversion Literal :=
  match v with
  | .scalar s => encodeScalar zone type s
  | _ => .ok .null

end CqlTable
