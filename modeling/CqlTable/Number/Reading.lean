import CqlTable.Number.Double
import CqlTable.Text.Hex
import CqlTable.Text.Numeral

/-!
# Reading numbers: decimal text to doubles

The grammar of floating point text: an optional sign, digits with at most one
point and at least one digit, and an optional exponent.
-/

namespace CqlTable.Number

open Text

/-- An exponent part: nothing, or the letter, an optional sign and digits. -/
def exponentPart? : List Char → Option Int
  | [] => some 0
  | c :: rest => if c = 'e' ∨ c = 'E' then integerValue? rest else none

/-- The parts of a number without sign: its digits before the point, those
    after it, and the exponent. -/
def decimalParts? (cs : List Char) : Option (List Char × List Char × Int) :=
  let (whole, rest) := takeDigits cs
  match rest with
  | '.' :: rest =>
    let (fraction, rest) := takeDigits rest
    if whole.isEmpty ∧ fraction.isEmpty then none
    else (exponentPart? rest).map fun e => (whole, fraction, e)
  | rest => if whole.isEmpty then none else (exponentPart? rest).map fun e => (whole, [], e)

/-- The double nearest to what digits around a point and an exponent spell. -/
def ofParts (negative : Bool) (whole fraction : List Char) (exponent : Int) : Double :=
  Double.ofDecimal negative (numeralValue (whole ++ fraction)) (exponent - fraction.length)

/-- The double that floating point text spells. -/
def ofText? (cs : List Char) : Option Double :=
  let (negative, rest) := takeSign cs
  (decimalParts? rest).map fun (whole, fraction, e) => ofParts negative whole fraction e

/-- The radix that a mark stands for, in either letter case. -/
def radixOf? (mark : Char) : Option Nat :=
  if mark = 'x' ∨ mark = 'X' then some 16
  else if mark = 'o' ∨ mark = 'O' then some 8
  else if mark = 'b' ∨ mark = 'B' then some 2
  else none

/-- The number that digits of a radix spell. -/
def radixValue? (radix : Nat) (value : Nat) : List Char → Option Nat
  | [] => some value
  | c :: rest =>
    match hexValue? c with
    | some digit => if digit < radix then radixValue? radix (radix * value + digit) rest else none
    | none => none

/-- The double nearest to a number written after a zero and a mark of its
    radix, without a sign. -/
def ofRadixText? : List Char → Option Double
  | '0' :: mark :: first :: rest =>
    (radixOf? mark).bind fun radix => (radixValue? radix 0 (first :: rest)).map Double.ofNat
  | _ => none

/-- The words for numbers that are not finite. -/
def nonFinite? (cs : List Char) : Option Double :=
  if cs = "NaN".toList then some .nan
  else if cs = "Infinity".toList ∨ cs = "+Infinity".toList then some (.infinite false)
  else if cs = "-Infinity".toList then some (.infinite true)
  else none

end CqlTable.Number
