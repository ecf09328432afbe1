/-!
# Binary formats: rounding a rational to a significand and an exponent

A format has a significand of `precision` binary digits and a least and a
greatest exponent. Rounding is to the nearest value, a half to the even
significand.
-/

namespace CqlTable.Number

/-- The digits of a significand and the range of its exponent. -/
structure Format where
  precision : Nat
  minExponent : Int
  maxExponent : Int

/-- Sixty-four bit values. -/
def double : Format := ⟨53, -1074, 971⟩

/-- Thirty-two bit values. -/
def single : Format := ⟨24, -149, 104⟩

/-- The pair stands for a finite value of the format in its one canonical
    way: the significand is full unless the exponent is least. -/
def Format.Fits (f : Format) (mantissa : Nat) (exponent : Int) : Prop :=
  mantissa < Nat.pow 2 f.precision ∧ f.minExponent ≤ exponent ∧ exponent ≤ f.maxExponent ∧
    (Nat.pow 2 (f.precision - 1) ≤ mantissa ∨ exponent = f.minExponent)

instance (f : Format) (mantissa : Nat) (exponent : Int) : Decidable (f.Fits mantissa exponent) :=
  inferInstanceAs (Decidable (_ ∧ _))

/-- The value of a significand and a binary exponent. -/
def scaled (mantissa : Nat) (exponent : Int) : Rat := mantissa * (2 : Rat) ^ exponent

/-- The greatest exponent at which a power of `base` is at most `q`, from a
    guess that is right or one too large. -/
def floorLogFrom (base : Nat) (guess : Int) (q : Rat) : Int :=
  if (base : Rat) ^ guess ≤ q then guess else guess - 1

/-- The exponent of the greatest power of two that is at most a positive
    rational. -/
def floorLog2 (q : Rat) : Int := floorLogFrom 2 (q.num.natAbs.log2 - q.den.log2) q

/-- The greatest exponent at which a power of ten is at most `n`, zero for
    `n` below ten. -/
def log10 (n : Nat) : Nat := if n < 10 then 0 else log10 (n / 10) + 1

/-- The exponent of the greatest power of ten that is at most a positive
    rational. -/
def floorLog10 (q : Rat) : Int := floorLogFrom 10 (log10 q.num.natAbs - log10 q.den) q

/-- The integer nearest to a rational, of two the even one. -/
def nearestEven (q : Rat) : Int :=
  let below := q.floor
  let rest := q - below
  if rest < 1 / 2 then below
  else if 1 / 2 < rest then below + 1
  else if below % 2 = 0 then below else below + 1

/-- The integer nearest to a rational at least zero, of two the greater. -/
def nearestUp (q : Rat) : Int := (q + 1 / 2).floor

/-- The exponent of the last place of the significand of a value near `q`. -/
def Format.lastPlace (f : Format) (q : Rat) : Int :=
  max f.minExponent (floorLog2 q - (f.precision - 1))

/-- The significand and exponent nearest to a rational at least zero. The
    exponent may lie past the greatest of the format. -/
def Format.nearest (f : Format) (q : Rat) : Nat × Int :=
  if q = 0 then (0, f.minExponent)
  else
    let exponent := f.lastPlace q
    let mantissa := (nearestEven (q / (2 : Rat) ^ exponent)).toNat
    if mantissa = Nat.pow 2 f.precision then (Nat.pow 2 (f.precision - 1), exponent + 1) else (mantissa, exponent)

end CqlTable.Number
