import CqlTable.Number.Shortest

/-!
# Rounded numerals: a fixed number of places or of significant digits

The exact value is rounded to the digits that are kept, a half away from zero.
-/

namespace CqlTable.Number

/-- A positive rational as `count` significant digits and the exponent of the
    first of them. -/
def significant (count : Nat) (q : Rat) : Nat × Int :=
  let exponent := floorLog10 q
  let digits := (nearestUp (q / (10 : Rat) ^ (exponent - (count - 1 : Int)))).toNat
  if digits = Nat.pow 10 count then (Nat.pow 10 (count - 1), exponent + 1) else (digits, exponent)

/-- `digits` with `places` of them after the point, and none of the point when
    `places` is zero. -/
def fixedChars (digits places : Nat) : List Char :=
  let ds := Text.padZeros (places + 1) (Text.numeralChars digits)
  if places = 0 then ds else pointed ds (ds.length - places)

/-- Digits without zeros at the end, and without a point that would be last. -/
def trimFraction (cs : List Char) : List Char :=
  if cs.contains '.' then
    let kept := (cs.reverse.dropWhile (· == '0'))
    (if kept.head? = some '.' then kept.tail else kept).reverse
  else cs

/-- An exponent of at least two digits, with its sign. -/
def exponentChars (exponent : Int) : List Char :=
  'e' :: (if exponent < 0 then '-' else '+') :: Text.padZeros 2 (Text.numeralChars exponent.natAbs)

end CqlTable.Number

namespace CqlTable.Double

open Number

/-- The text of a double with `places` digits after the point; from 10^21 on
    its shortest text. -/
def fixedText (places : Nat) (d : Double) : String :=
  match d with
  | finite _ mantissa exponent _ =>
    let q := scaled mantissa exponent
    if (10 : Rat) ^ (21 : Int) ≤ q then d.text
    else
      let sign := if d.value < 0 then ['-'] else []
      String.ofList (sign ++ fixedChars (nearestUp (q * (10 : Rat) ^ (places : Int))).toNat places)
  | d => d.nonFiniteText

/-- The text of a double with `count` significant digits, the first of them at
    ten to an exponent: positional from 10^-4 up to but without 10^count, and
    otherwise with that exponent. The positional text is rounded anew, to the
    places that the exponent leaves. Zeros at the end of a fraction are left
    out, and zero keeps its sign. -/
def generalText (count : Nat) (d : Double) : String :=
  match d with
  | finite negative mantissa exponent _ =>
    let sign := if negative then ['-'] else []
    if mantissa = 0 then String.ofList (sign ++ ['0'])
    else
      let rounded := significant count (scaled mantissa exponent)
      if rounded.2 < -4 ∨ count ≤ rounded.2 then
        String.ofList (sign ++ (trimFraction (fixedChars rounded.1 (count - 1)) ++ exponentChars rounded.2))
      else String.ofList (trimFraction (d.fixedText (count - 1 - rounded.2).toNat).toList)
  | d => d.nonFiniteText

/-- A double rounded to places after the point. -/
def roundPlaces (places : Nat) (d : Double) : Double :=
  match d with
  | finite negative mantissa exponent _ =>
    let q := scaled mantissa exponent
    if (10 : Rat) ^ (21 : Int) ≤ q then d
    else ofDecimal negative (nearestUp (q * (10 : Rat) ^ (places : Int))).toNat (-places)
  | d => d

end CqlTable.Double
