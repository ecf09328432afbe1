import CqlTable.Calendar.Instant
import CqlTable.Json.Printer
import CqlTable.Number.Reading
import CqlTable.Text.Blank
import CqlTable.Text.Utf8

/-!
# Scalars: the values of rows

A scalar is a number, an integer of any size, a text, a truth value, bytes, an
instant, or calendar fields given by name.
-/

namespace CqlTable

open Calendar

/-- A calendar field as it is given: it may be absent, null or of the wrong
    kind. -/
inductive Member
  | missing
  | null
  | number (d : Double)
  | text (s : String)
  | flag (b : Bool)
  deriving DecidableEq

/-- Calendar fields in the order in which they are given. -/
abbrev Fields := Named Member

/-- A value that is not null. -/
inductive Scalar
  | number (d : Double)
  | bigint (i : Int)
  | text (s : String)
  | boolean (b : Bool)
  | bytes (b : Bytes)
  | instant (t : Instant)
  | invalidInstant
  | fields (members : Fields)
  deriving DecidableEq

/-- What a row or a key part holds. A missing value stands for null in a row
    and ends a list of key parts. -/
inductive Value
  | missing
  | null
  | scalar (s : Scalar)
  deriving DecidableEq

/-- Whether a value is null or missing. -/
def Value.isNull : Value → Bool
  | scalar _ => false
  | _ => true

namespace Member

/-- A member in a document; an absent one has none. -/
def json? : Member → Option Json
  | missing => none
  | null => some .null
  | number d => some (.number d)
  | text s => some (.string s)
  | flag b => some (.boolean b)

/-- The number that a member stands for. Null is zero, a flag zero or one, a
    text what it spells. -/
def amount : Member → Double
  | missing => .nan
  | null => .signedZero false
  | number d => d
  | flag b => .ofNat (if b then 1 else 0)
  | text s =>
    match Text.trimChars s.toList with
    | [] => .signedZero false
    | cs => (((Number.nonFinite? cs).or (Number.ofText? cs)).or (Number.ofRadixText? cs)).getD .nan

/-- The integer that a member is, within a range. -/
def within? (least greatest : Int) : Member → Option Int
  | number d => if d.isWithin least greatest then d.toInt? else none
  | _ => none

end Member

namespace Fields

/-- The field of a name. -/
def field (name : String) (fields : Fields) : Member := (Named.get? name fields).getD .missing

/-- Whether a field of a name is given, be it without a value. -/
def has (name : String) (fields : Fields) : Bool := (Named.get? name fields).isSome

/-- The fields as the text of a document. -/
def text (fields : Fields) : String :=
  (Json.object (fields.filterMap fun (name, member) => member.json?.map fun j => (name, j))).print

/-- An integer field. -/
def entry (name : String) (i : Int) : String × Member := (name, .number (Double.ofInt i))

end Fields

/-- The fields of a date and time of day. -/
def Calendar.DateTime.fields (d : DateTime) : Fields :=
  [Fields.entry "year" d.date.year, Fields.entry "month" d.date.month, Fields.entry "day" d.date.day,
    Fields.entry "hour" d.time.hour, Fields.entry "minute" d.time.minute,
    Fields.entry "second" d.time.second, Fields.entry "microsecond" d.microsecond]

/-- How a scalar shows in messages. -/
def Scalar.shown : Scalar → String
  | number d => d.text
  | bigint i => Text.integer i
  | text s => s
  | boolean b => if b then "true" else "false"
  | bytes b => "<" ++ Text.numeral b.length ++ " bytes>"
  | instant t => t.text
  | invalidInstant => "Invalid Date"
  | fields members => members.text

end CqlTable
