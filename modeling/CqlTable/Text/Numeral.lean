/-!
# Numerals: decimal digits

Natural numbers and integers as decimal digits, without leading zeros when
written and with any number of them when read.
-/

namespace CqlTable.Text

/-- A decimal digit of ASCII. -/
def isDigit (c : Char) : Bool := '0' ≤ c && c ≤ '9'

/-- The value of a digit. -/
def digitValue (c : Char) : Nat := c.toNat - 48

/-- The digit of a value below ten. -/
def digitChar (n : Nat) : Char := Char.ofNat (48 + n)

/-- The number that digits spell. -/
def numeralValue (ds : List Char) : Nat := ds.foldl (fun n c => 10 * n + digitValue c) 0

/-- The digits of a number, without leading zeros. -/
def numeralChars (n : Nat) : List Char :=
  if n < 10 then [digitChar n] else numeralChars (n / 10) ++ [digitChar (n % 10)]

/-- The digits of a number, as a text. -/
def numeral (n : Nat) : String := String.ofList (numeralChars n)

/-- The digits of an integer, after a minus sign when it is negative. -/
def integerChars : Int → List Char
  | .ofNat n => numeralChars n
  | .negSucc n => '-' :: numeralChars (n + 1)

/-- The digits of an integer, as a text. -/
def integer (i : Int) : String := String.ofList (integerChars i)

/-- Zeros in front up to a width. -/
def padZeros (width : Nat) (cs : List Char) : List Char :=
  List.replicate (width - cs.length) '0' ++ cs

/-- The digits of a number, with zeros in front up to a width. -/
def padded (width n : Nat) : String := String.ofList (padZeros width (numeralChars n))

/-- A nonempty run of digits and nothing else. -/
def isNumeral (cs : List Char) : Bool := !cs.isEmpty && cs.all isDigit

/-- An optional sign, and what follows it; true for a minus sign. -/
def takeSign : List Char → Bool × List Char
  | '-' :: rest => (true, rest)
  | '+' :: rest => (false, rest)
  | cs => (false, cs)

/-- The integer that an optional sign and digits spell. -/
def integerValue? (cs : List Char) : Option Int :=
  let (negative, ds) := takeSign cs
  if isNumeral ds then
    some (if negative then -(numeralValue ds : Int) else (numeralValue ds : Int))
  else none

/-- The longest run of digits at the front, and the rest. -/
def takeDigits (cs : List Char) : List Char × List Char := (cs.takeWhile isDigit, cs.dropWhile isDigit)

end CqlTable.Text
