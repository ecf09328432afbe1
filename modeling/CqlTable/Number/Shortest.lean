import CqlTable.Number.Double
import CqlTable.Text.Numeral

/-!
# Shortest numerals: the text of a double

A double is written with the fewest significant digits that read back as it;
of several such numerals the nearest is taken, and of two the one with an even
last digit.
-/

namespace CqlTable.Number

/-- `digits` times ten to `exponent`. -/
structure Numeral where
  digits : Nat
  exponent : Int
  deriving DecidableEq

/-- The value of a numeral. -/
def Numeral.value (n : Numeral) : Rat := n.digits * (10 : Rat) ^ n.exponent

/-- The same value without zeros at the end of the digits; `room` bounds their
    number. -/
def Numeral.strip : Nat → Numeral → Numeral
  | 0, n => n
  | room + 1, n =>
    if n.digits % 10 = 0 ∧ n.digits ≠ 0 then Numeral.strip room ⟨n.digits / 10, n.exponent + 1⟩ else n

/-- The two numerals of `count` digits around a positive rational; the upper
    one may have a digit more. -/
def neighbours (q : Rat) (count : Nat) : List Numeral :=
  let exponent := floorLog10 q - (count - 1 : Int)
  let digits := (q / (10 : Rat) ^ exponent).floor.toNat
  [⟨digits, exponent⟩, ⟨digits + 1, exponent⟩]

/-- The numeral nearer to a rational, of two the one with even digits. -/
def nearer (q : Rat) (a b : Numeral) : Numeral :=
  let toA := if a.value ≤ q then q - a.value else a.value - q
  let toB := if b.value ≤ q then q - b.value else b.value - q
  if toA < toB then a
  else if toB < toA then b
  else if a.digits % 2 = 0 then a else b

/-- The nearest of the numerals with `count` digits around `q` that read back
    as the pair. -/
def readingBack? (q : Rat) (pair : Nat × Int) (count : Nat) : Option Numeral :=
  match (neighbours q count).filter fun n => double.nearest n.value == pair with
  | [a, b] => some (nearer q a b)
  | [a] => some a
  | _ => none

/-- The shortest numeral that reads back as a positive finite double.
    Seventeen digits always do. -/
def shortest (mantissa : Nat) (exponent : Int) : Numeral :=
  let q := scaled mantissa exponent
  match (List.range 17).findSome? fun k => readingBack? q (mantissa, exponent) (k + 1) with
  | some n => n.strip 18
  | none => ⟨mantissa, exponent⟩

/-- Digits with a point after the first `whole` of them, which are at least
    one and not all. -/
def pointed (ds : List Char) (whole : Nat) : List Char := ds.take whole ++ '.' :: ds.drop whole

/-- A decimal exponent with its sign. -/
def signedExponent (e : Int) : List Char :=
  (if e < 0 then '-' else '+') :: Text.numeralChars e.natAbs

/-- Positional notation from 10^-6 up to but without 10^21, and otherwise one
    digit before the point and an exponent. -/
def Numeral.chars (n : Numeral) : List Char :=
  let ds := Text.numeralChars n.digits
  let places : Int := ds.length + n.exponent
  if 0 ≤ n.exponent ∧ places ≤ 21 then ds ++ List.replicate n.exponent.toNat '0'
  else if 0 < places ∧ places ≤ 21 then pointed ds places.toNat
  else if -6 < places ∧ places ≤ 0 then '0' :: '.' :: List.replicate (-places).toNat '0' ++ ds
  else
    (if ds.length ≤ 1 then ds else pointed ds 1) ++ 'e' :: signedExponent (places - 1)

end CqlTable.Number

namespace CqlTable.Double

open Number

/-- The text of a number that is not finite. -/
def nonFiniteText (d : Double) : String :=
  match d with
  | nan => "NaN"
  | d => if d.isNegative then "-Infinity" else "Infinity"

/-- The text of a double: an integer up to two to the fifty-three as its
    digits, any other finite number as its shortest numeral. Zero has no sign. -/
def text (d : Double) : String :=
  match d with
  | finite negative mantissa exponent _ =>
    match d.toInt? with
    | some i =>
      if i.natAbs ≤ 9007199254740992 then Text.integer i
      else String.ofList ((if negative then ['-'] else []) ++ (shortest mantissa exponent).chars)
    | none => String.ofList ((if negative then ['-'] else []) ++ (shortest mantissa exponent).chars)
  | d => d.nonFiniteText

end CqlTable.Double
