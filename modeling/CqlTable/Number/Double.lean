import CqlTable.Number.Format

/-!
# Doubles: the numbers of values, settings and clocks

A double is not a number, an infinity, or a signed significand and exponent in
canonical form, so two doubles are equal when they are the same value with the
same sign of zero. Arithmetic rounds the exact result.
-/

namespace CqlTable

open Number

/-- A sixty-four bit binary number. -/
inductive Double
  | nan
  | infinite (negative : Bool)
  | finite (negative : Bool) (mantissa : Nat) (exponent : Int) (fits : double.Fits mantissa exponent)
  deriving DecidableEq

namespace Double

/-- Zero of a sign. -/
def signedZero (negative : Bool) : Double := finite negative 0 (-1074) (by decide)

/-- The double nearest to a sign and a magnitude; past the greatest finite one
    it is infinite. -/
def ofMagnitude (negative : Bool) (q : Rat) : Double :=
  let rounded := double.nearest q
  if h : double.Fits rounded.1 rounded.2 then finite negative rounded.1 rounded.2 h
  else infinite negative

/-- The double nearest to a rational; zero is positive. -/
def ofRat (q : Rat) : Double := if q < 0 then ofMagnitude true (-q) else ofMagnitude false q

/-- The double nearest to an integer. -/
def ofInt (i : Int) : Double := ofRat i

/-- The double nearest to a natural number. -/
def ofNat (n : Nat) : Double := ofInt n

instance : Inhabited Double := ⟨signedZero false⟩

/-- The exact value of a finite double, zero for the others. -/
def value : Double → Rat
  | finite negative mantissa exponent _ =>
    if negative then -scaled mantissa exponent else scaled mantissa exponent
  | _ => 0

/-- Whether a double is finite. -/
def isFinite : Double → Bool
  | finite .. => true
  | _ => false

/-- Whether a double is zero of either sign. -/
def isZero : Double → Bool
  | finite _ mantissa _ _ => mantissa == 0
  | _ => false

/-- Whether a double has a minus sign. -/
def isNegative : Double → Bool
  | nan => false
  | infinite negative => negative
  | finite negative _ _ _ => negative

/-- The integer that a finite double without a fraction is. -/
def toInt? (d : Double) : Option Int :=
  if d.isFinite ∧ d.value.den = 1 then some d.value.num else none

/-- Whether a double is an integer. -/
def isInteger (d : Double) : Bool := d.toInt?.isSome

/-- Whether a double is an integer of the range. -/
def isWithin (least greatest : Int) (d : Double) : Bool :=
  match d.toInt? with
  | some i => least ≤ i && i ≤ greatest
  | none => false

/-- The integer part of a rational, toward zero. -/
def truncate (q : Rat) : Int := if q < 0 then -(-q).floor else q.floor

/-- The thirty-two bit word of a double: its integer part modulo two to the
    thirty-two, and zero when it is not finite. -/
def word32 (d : Double) : Nat := ((truncate d.value) % 4294967296).toNat

/-- Whether a double is above a rational. -/
def above (d : Double) (q : Rat) : Bool :=
  match d with
  | nan => false
  | infinite negative => !negative
  | finite .. => q < d.value

/-- Whether a double is below a rational. -/
def below (d : Double) (q : Rat) : Bool :=
  match d with
  | nan => false
  | infinite negative => negative
  | finite .. => d.value < q

/-- The same magnitude with the other sign. -/
def negate : Double → Double
  | nan => nan
  | infinite negative => infinite !negative
  | finite negative mantissa exponent fits => finite (!negative) mantissa exponent fits

/-- The same magnitude without a minus sign. -/
def abs : Double → Double
  | nan => nan
  | infinite _ => infinite false
  | finite _ mantissa exponent fits => finite false mantissa exponent fits

/-- The rounded sum. -/
def add (a b : Double) : Double :=
  match a, b with
  | nan, _ => nan
  | _, nan => nan
  | infinite x, infinite y => if x = y then infinite x else nan
  | infinite x, _ => infinite x
  | _, infinite y => infinite y
  | finite x _ _ _, finite y _ _ _ =>
    if a.value + b.value = 0 ∧ x ∧ y then signedZero true else ofRat (a.value + b.value)

/-- The rounded difference. -/
def sub (a b : Double) : Double := a.add b.negate

/-- The integer part of a double divided by a positive number, both steps
    rounded. -/
def divTruncate (d : Double) (divisor : Nat) : Double :=
  match d with
  | finite negative mantissa exponent _ =>
    ofMagnitude negative (ofMagnitude false (scaled mantissa exponent / divisor)).value.floor
  | d => d

/-- The nearest value of single precision, infinite past the greatest finite
    one. -/
def toSingle (d : Double) : Double :=
  match d with
  | finite negative mantissa exponent _ =>
    let rounded := single.nearest (scaled mantissa exponent)
    if single.Fits rounded.1 rounded.2 then ofMagnitude negative (scaled rounded.1 rounded.2)
    else infinite negative
  | d => d

/-- The double nearest to `digits` times ten to `exponent`. Magnitudes far
    past the range are settled by their count of digits. -/
def ofDecimal (negative : Bool) (digits : Nat) (exponent : Int) : Double :=
  if digits = 0 then signedZero negative
  else if 400 < log10 digits + exponent then infinite negative
  else if log10 digits + exponent < -400 then signedZero negative
  else ofMagnitude negative (digits * (10 : Rat) ^ exponent)

end Double

end CqlTable
