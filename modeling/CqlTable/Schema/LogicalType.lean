import CqlTable.Number.Shortest

/-!
# Logical types: the kinds of values of columns

Integers of four widths, two floating point precisions, decimals, byte
strings, four kinds of text, dates, times, timestamps and truth values. Other
types of the host have a name and no mapping of their own.
-/

namespace CqlTable

/-- Integers by their width. -/
inductive IntegerKind
  | tinyint
  | smallint
  | int
  | bigint
  deriving DecidableEq

/-- Floating point numbers by their precision. -/
inductive FloatKind
  | float
  | double
  deriving DecidableEq

/-- Types that are stored as text. -/
inductive TextKind
  | text
  | enum
  | set
  | json
  deriving DecidableEq

/-- The type of a column. -/
inductive LogicalType
  | integer (kind : IntegerKind)
  | floating (kind : FloatKind)
  | decimal (scale : Nat)
  | blob (length : Option Nat)
  | textual (kind : TextKind)
  | date
  | time
  | timestamp
  | boolean
  | other (name : String)
  deriving DecidableEq

/-- Width in bits, the sign included. -/
def IntegerKind.bits : IntegerKind → Nat
  | tinyint => 8
  | smallint => 16
  | int => 32
  | bigint => 64

/-- The least integer of a width. -/
def IntegerKind.least (kind : IntegerKind) : Int := -(Nat.pow 2 (kind.bits - 1) : Int)

/-- The greatest integer of a width. -/
def IntegerKind.greatest (kind : IntegerKind) : Int := (Nat.pow 2 (kind.bits - 1) : Int) - 1

/-- Whether an integer has the width. -/
def IntegerKind.holds (kind : IntegerKind) (i : Int) : Bool :=
  kind.least ≤ i && i ≤ kind.greatest

/-- The name of an integer type. -/
def IntegerKind.name : IntegerKind → String
  | tinyint => "tinyint"
  | smallint => "smallint"
  | int => "int"
  | bigint => "bigint"

/-- The name of a floating point type. -/
def FloatKind.name : FloatKind → String
  | float => "float"
  | double => "double"

/-- The name of a text type. -/
def TextKind.name : TextKind → String
  | text => "text"
  | enum => "enum"
  | set => "set"
  | json => "json"

namespace LogicalType

/-- The word for the kind of a type. -/
def kind : LogicalType → String
  | integer kind => kind.name
  | floating kind => kind.name
  | decimal _ => "decimal"
  | blob _ => "blob"
  | textual kind => kind.name
  | date => "date"
  | time => "time"
  | timestamp => "timestamp"
  | boolean => "boolean"
  | other _ => "other"

/-- The words for all kinds. -/
def kinds : List String :=
  ["tinyint", "smallint", "int", "bigint", "float", "double", "decimal", "blob", "text", "enum",
    "set", "json", "date", "time", "timestamp", "boolean", "other"]

/-- The type of a column in the database: text for all that it does not
    know. -/
def cqlName : LogicalType → String
  | textual _ => "text"
  | other _ => "text"
  | type => type.kind

/-- Whether a type has a mapping of its own. -/
def isSupported : LogicalType → Bool
  | other _ => false
  | _ => true

/-- How a type shows in messages, with its parameter. -/
def label : LogicalType → String
  | decimal scale => "decimal(" ++ (Double.ofNat scale).text ++ ")"
  | blob (some length) => "blob(" ++ (Double.ofNat length).text ++ ")"
  | other name => "other(" ++ name ++ ")"
  | type => type.kind

end LogicalType

end CqlTable
