import CqlTable.Number.Shortest
import CqlTable.Proofs.Number.Rounding
import Mathlib.Tactic.GCongr

/-!
# Integers among the doubles

Integers up to two to the fifty-third are doubles (`toInt_ofInt`), no greater
number has one of the smaller as its double (`toInt_ofNat`), and they are written
as their digits (`text_of_toInt`). Sums of them are exact (`toInt_add`), and so is
the quotient of a small one that is cut to an integer (`toInt_divTruncate`).
-/

namespace CqlTable.Double

open Number

/-! ## Doubles of magnitudes and of integers -/

theorem double_digits : 0 < double.precision := by decide

theorem ofMagnitude_scaled (negative : Bool) {mantissa : Nat} {exponent : Int}
    (fits : double.Fits mantissa exponent) :
    ofMagnitude negative (scaled mantissa exponent) = finite negative mantissa exponent fits := by
  have same := nearest_scaled fits double_digits
  simp only [ofMagnitude, same, fits, ↓reduceDIte]

/-- The greatest integer up to which all are doubles. -/
def greatestExact : Nat := 9007199254740992

/-- A double of an integer is that integer. -/
theorem ofMagnitude_natCast (negative : Bool) {n : Nat} (small : n ≤ greatestExact) :
    ∃ mantissa exponent fits, ofMagnitude negative n = finite negative mantissa exponent fits ∧
      scaled mantissa exponent = n := by
  obtain ⟨mantissa, exponent, fits, value⟩ :=
    exists_fits_natCast (f := double) double_digits (n := n) small (by decide) (by decide)
  exact ⟨mantissa, exponent, fits, by rw [← value, ofMagnitude_scaled], value⟩

theorem ofInt_natCast (n : Nat) : ofInt n = ofMagnitude false n := by
  have above : ¬ ((n : Int) : Rat) < 0 := by
    rw [Int.cast_natCast]
    exact not_lt.mpr (Nat.cast_nonneg n)
  rw [ofInt, ofRat, if_neg above, Int.cast_natCast]

theorem ofInt_neg_natCast {n : Nat} (positive : 0 < n) : ofInt (-(n : Int)) = ofMagnitude true n := by
  have magnitude : (0 : Rat) < n := by exact_mod_cast positive
  have below : ((-(n : Int) : Int) : Rat) < 0 := by
    push_cast
    linarith
  rw [ofInt, ofRat, if_pos below]
  push_cast
  rw [neg_neg]

/-- The double of an integer is finite and has its value. -/
theorem value_ofInt {i : Int} (small : i.natAbs ≤ greatestExact) :
    (ofInt i).isFinite = true ∧ (ofInt i).value = i := by
  by_cases negative : i < 0
  · have same : i = -(i.natAbs : Int) := by omega
    obtain ⟨mantissa, exponent, fits, whole, magnitude⟩ := ofMagnitude_natCast true small
    rw [same, ofInt_neg_natCast (by omega), whole]
    exact ⟨rfl, by simpa [value] using magnitude⟩
  · have same : i = (i.natAbs : Int) := by omega
    obtain ⟨mantissa, exponent, fits, whole, magnitude⟩ := ofMagnitude_natCast false small
    rw [same, ofInt_natCast, whole]
    exact ⟨rfl, by simpa [value] using magnitude⟩

/-- A double is an integer when it is finite and has its value. -/
theorem toInt_eq_some_iff {d : Double} {i : Int} : d.toInt? = some i ↔ d.isFinite = true ∧ d.value = i := by
  unfold toInt?
  constructor
  · intro integer
    split at integer
    · rename_i whole
      obtain ⟨finite, den⟩ := whole
      refine ⟨finite, ?_⟩
      rw [← Option.some.inj integer]
      exact (Rat.den_eq_one_iff _).mp den |>.symm
    · exact absurd integer (by simp)
  · rintro ⟨finite, value⟩
    rw [if_pos ⟨finite, by rw [value]; rfl⟩, value]
    rfl

theorem toInt_ofInt {i : Int} (small : i.natAbs ≤ greatestExact) : (ofInt i).toInt? = some i :=
  toInt_eq_some_iff.mpr (value_ofInt small)

/-- Where the double of a natural number is a small integer, it is that number. -/
theorem toInt_ofNat {n : Nat} {i : Int} (integer : (ofNat n).toInt? = some i) (small : i < greatestExact) :
    i = n := by
  by_cases exact : n ≤ greatestExact
  · have same := toInt_ofInt (i := n) (by simpa using exact)
    exact (Option.some.inj (same.symm.trans integer)).symm
  · have low : (2 : Rat) ^ (53 : Int) ≤ (n : Rat) := by
      have large : greatestExact ≤ n := by omega
      have large' : ((9007199254740992 : Nat) : Rat) ≤ n := by exact_mod_cast large
      norm_num at large' ⊢
      exact large'
    have above := le_scaled_nearest (f := double) low double_digits (by decide)
    obtain ⟨isFinite, value⟩ := toInt_eq_some_iff.mp integer
    rw [ofNat, ofInt_natCast, ofMagnitude] at isFinite value
    split at value
    · simp only [Double.value, Bool.false_eq_true, ↓reduceIte] at value
      rw [value] at above
      have large : ((9007199254740992 : Int) : Rat) ≤ i := by
        norm_num at above ⊢
        exact above
      have large' : (9007199254740992 : Int) ≤ i := by exact_mod_cast large
      unfold greatestExact at small
      omega
    · next past =>
      rw [dif_neg past] at isFinite
      cases isFinite

theorem exists_finite {d : Double} (isFinite : d.isFinite = true) :
    ∃ negative mantissa exponent fits, d = finite negative mantissa exponent fits := by
  cases d with
  | nan => exact absurd isFinite (by simp [Double.isFinite])
  | infinite negative => exact absurd isFinite (by simp [Double.isFinite])
  | finite negative mantissa exponent fits => exact ⟨negative, mantissa, exponent, fits, rfl⟩

/-- A double that is an integer is written as its digits. -/
theorem text_of_toInt {d : Double} {i : Int} (integer : d.toInt? = some i) (small : i.natAbs ≤ greatestExact) :
    d.text = Text.integer i := by
  obtain ⟨negative, mantissa, exponent, fits, rfl⟩ := exists_finite (toInt_eq_some_iff.mp integer).1
  have within : i.natAbs ≤ 9007199254740992 := small
  simp only [text, integer, within, ↓reduceIte]

/-- A sum of integers is exact as long as it is small. -/
theorem toInt_add {a b : Double} {i j : Int} (integerA : a.toInt? = some i) (integerB : b.toInt? = some j)
    (small : (i + j).natAbs ≤ greatestExact) : (a.add b).toInt? = some (i + j) := by
  obtain ⟨finiteA, valueA⟩ := toInt_eq_some_iff.mp integerA
  obtain ⟨finiteB, valueB⟩ := toInt_eq_some_iff.mp integerB
  have sum : a.value + b.value = ((i + j : Int) : Rat) := by
    rw [valueA, valueB]
    push_cast
    ring
  obtain ⟨signA, mantissaA, exponentA, fitsA, rfl⟩ := exists_finite finiteA
  obtain ⟨signB, mantissaB, exponentB, fitsB, rfl⟩ := exists_finite finiteB
  simp only [add, sum]
  split
  · rename_i vanishes
    have zero : i + j = 0 := by exact_mod_cast vanishes.1
    rw [zero]
    exact toInt_eq_some_iff.mpr ⟨rfl, by simp [value, signedZero, scaled]⟩
  · exact toInt_ofInt small

theorem isNegative_ofMagnitude (negative : Bool) (q : Rat) : (ofMagnitude negative q).isNegative = negative := by
  unfold ofMagnitude
  simp only []
  split
  · rfl
  · rfl

theorem isNegative_ofInt (i : Int) : (ofInt i).isNegative = decide (i < 0) := by
  have sign : (i : Rat) < 0 ↔ i < 0 := Int.cast_lt_zero
  rw [ofInt, ofRat]
  by_cases negative : i < 0
  · rw [if_pos (sign.mpr negative), isNegative_ofMagnitude, decide_eq_true negative]
  · rw [if_neg (mt sign.mp negative), isNegative_ofMagnitude, decide_eq_false negative]

/-- The sum of the double of an integer and another integer is the double of
    their sum; a sum of zero has no sign. -/
theorem ofInt_add {d : Double} {i j : Int} (integer : d.toInt? = some j) (small : i.natAbs ≤ greatestExact) :
    (ofInt i).add d = ofInt (i + j) := by
  obtain ⟨finiteI, valueI⟩ := value_ofInt small
  obtain ⟨finiteD, valueD⟩ := toInt_eq_some_iff.mp integer
  have signI := isNegative_ofInt i
  have sum : (ofInt i).value + d.value = ((i + j : Int) : Rat) := by
    rw [valueI, valueD]
    push_cast
    ring
  obtain ⟨signA, mantissaA, exponentA, fitsA, formI⟩ := exists_finite finiteI
  obtain ⟨signB, mantissaB, exponentB, fitsB, rfl⟩ := exists_finite finiteD
  rw [formI] at sum signI ⊢
  simp only [add, sum]
  split
  -- Two negative numbers do not cancel.
  · rename_i vanishes
    obtain ⟨zero, rfl, rfl⟩ := vanishes
    have below : i < 0 := of_decide_eq_true signI.symm
    have nonneg := scaled_nonneg mantissaB exponentB
    have notAbove : (j : Rat) ≤ 0 := by
      rw [← valueD]
      simpa [value] using nonneg
    have notAbove : j ≤ 0 := by exact_mod_cast notAbove
    have cancels : i + j = 0 := by exact_mod_cast zero
    omega
  · rfl

theorem toInt_negate {a : Double} {i : Int} (integer : a.toInt? = some i) : a.negate.toInt? = some (-i) := by
  obtain ⟨isFinite, whole⟩ := toInt_eq_some_iff.mp integer
  obtain ⟨negative, mantissa, exponent, fits, rfl⟩ := exists_finite isFinite
  rw [toInt_eq_some_iff]
  refine ⟨rfl, ?_⟩
  push_cast
  rw [← whole]
  cases negative <;> simp [negate, value]

theorem toInt_abs {a : Double} {i : Int} (integer : a.toInt? = some i) : a.abs.toInt? = some (i.natAbs : Int) := by
  obtain ⟨isFinite, whole⟩ := toInt_eq_some_iff.mp integer
  obtain ⟨negative, mantissa, exponent, fits, rfl⟩ := exists_finite isFinite
  have nonneg := scaled_nonneg mantissa exponent
  rw [toInt_eq_some_iff]
  refine ⟨rfl, ?_⟩
  have magnitude : scaled mantissa exponent = |(i : Rat)| := by
    rw [← whole]
    cases negative with
    | false => simp [value, abs_of_nonneg nonneg]
    | true => simp [value, abs_of_nonneg nonneg]
  simp [Double.abs, value, magnitude]

theorem below_zero_iff {a : Double} {i : Int} (integer : a.toInt? = some i) : a.below 0 = true ↔ i < 0 := by
  obtain ⟨isFinite, whole⟩ := toInt_eq_some_iff.mp integer
  obtain ⟨negative, mantissa, exponent, fits, rfl⟩ := exists_finite isFinite
  simp [below, whole]

theorem toInt_sub {a b : Double} {i j : Int} (integerA : a.toInt? = some i) (integerB : b.toInt? = some j)
    (small : (i - j).natAbs ≤ greatestExact) : (a.sub b).toInt? = some (i - j) :=
  toInt_add integerA (toInt_negate integerB) small

theorem truncate_intCast (i : Int) : truncate i = i := by
  unfold truncate
  split
  · rw [← Int.cast_neg, Rat.floor_intCast, neg_neg]
  · rw [Rat.floor_intCast]

theorem truncate_value {d : Double} {i : Int} (integer : d.toInt? = some i) : truncate d.value = i := by
  rw [(toInt_eq_some_iff.mp integer).2, truncate_intCast]

/-- Rounding a quotient of small integers does not carry it to the next
    integer. -/
theorem floor_ofMagnitude_div {n : Nat} (small : n < 1000000) :
    (ofMagnitude false ((n : Rat) / 1000)).value.floor = (n / 1000 : Nat) := by
  obtain ⟨whole, rest, split, below⟩ : ∃ whole rest, n = 1000 * whole + rest ∧ rest < 1000 :=
    ⟨n / 1000, n % 1000, by omega, by omega⟩
  have quotient : n / 1000 = whole := by omega
  have exact : (n : Rat) / 1000 = whole + rest / 1000 := by
    rw [split]
    push_cast
    ring
  rw [quotient, exact]
  by_cases even : rest = 0
  · obtain ⟨mantissa, exponent, fits, rounded, magnitude⟩ :=
      ofMagnitude_natCast false (n := whole) (by unfold greatestExact; omega)
    rw [even, Nat.cast_zero, zero_div, add_zero, rounded]
    simp only [value, magnitude, Bool.false_eq_true, ↓reduceIte]
    show ⌊(whole : Rat)⌋ = (whole : Int)
    exact Int.floor_natCast whole
  · have restLow : (1 : Rat) ≤ rest := by exact_mod_cast Nat.pos_of_ne_zero even
    have restHigh : (rest : Rat) ≤ 999 := by exact_mod_cast (by omega : rest ≤ 999)
    have wholeLow : (0 : Rat) ≤ whole := Nat.cast_nonneg whole
    have wholeHigh : (whole : Rat) ≤ 999 := by exact_mod_cast (by omega : whole ≤ 999)
    generalize same : (whole : Rat) + rest / 1000 = q
    have low : whole + 1 / 1000 ≤ q := by linarith
    have high : q ≤ whole + 999 / 1000 := by linarith
    have positive : 0 < q := by linarith
    have bounded : q < 2 ^ (10 : Int) := by
      norm_num
      linarith
    have fits : double.Fits (double.nearest q).1 (double.nearest q).2 :=
      nearest_fits positive double_digits
        (bounded.trans_le (zpow_le_zpow_right₀ one_le_two (by decide))) (by decide)
    have place : double.lastPlace q ≤ -43 := by
      have log : floorLog2 q < 10 :=
        (zpow_lt_zpow_iff_right₀ one_lt_two).mp (lt_of_le_of_lt (floorLog2_spec positive).1 bounded)
      simp only [Format.lastPlace, double]
      omega
    have error : |scaled (double.nearest q).1 (double.nearest q).2 - q| < 1 / 1000 := by
      have step : (2 : Rat) ^ double.lastPlace q ≤ 2 ^ (-43 : Int) := zpow_le_zpow_right₀ one_le_two place
      calc _ ≤ (2 : Rat) ^ double.lastPlace q / 2 := nearest_error positive double_digits
        _ ≤ 2 ^ (-43 : Int) / 2 := by gcongr
        _ < 1 / 1000 := by norm_num
    rw [abs_lt] at error
    simp only [ofMagnitude, fits, ↓reduceDIte, value, Bool.false_eq_true, ↓reduceIte]
    show ⌊scaled (double.nearest q).1 (double.nearest q).2⌋ = (whole : Int)
    rw [Int.floor_eq_iff]
    push_cast
    constructor <;> linarith [error.1, error.2]

/-- The quotient of a small integer is cut to an integer exactly. -/
theorem toInt_divTruncate {d : Double} {n : Nat} (integer : d.toInt? = some (n : Int)) (small : n < 1000000) :
    (d.divTruncate 1000).toInt? = some ((n / 1000 : Nat) : Int) := by
  obtain ⟨isFinite, whole⟩ := toInt_eq_some_iff.mp integer
  obtain ⟨negative, mantissa, exponent, fits, rfl⟩ := exists_finite isFinite
  have nonneg := scaled_nonneg mantissa exponent
  have positive : (0 : Rat) ≤ n := Nat.cast_nonneg n
  rw [Int.cast_natCast] at whole
  have magnitude : scaled mantissa exponent = n := by
    cases negative with
    | true =>
      simp only [value, ↓reduceIte] at whole
      linarith
    | false => simpa [value] using whole
  have cut := floor_ofMagnitude_div small
  simp only [divTruncate, magnitude]
  rw [show ((1000 : Nat) : Rat) = 1000 from rfl, cut, Int.cast_natCast]
  obtain ⟨mantissa', exponent', fits', rounded, value'⟩ :=
    ofMagnitude_natCast negative (n := n / 1000) (by unfold greatestExact; omega)
  rw [rounded, toInt_eq_some_iff]
  refine ⟨rfl, ?_⟩
  cases negative with
  | true =>
    have zero : n = 0 := by
      simp only [value, ↓reduceIte] at whole
      have : (n : Rat) = 0 := by linarith
      exact_mod_cast this
    simp [value, value', zero]
  | false => simp only [value, value', Bool.false_eq_true, ↓reduceIte, Int.cast_natCast]

/-! ## Zero without its sign -/

/-- The same number, but for the sign of zero. -/
def plainZero (d : Double) : Double := if d.isZero then signedZero false else d

theorem isZero_iff {d : Double} {i : Int} (integer : d.toInt? = some i) : d.isZero = true ↔ i = 0 := by
  obtain ⟨isFinite, whole⟩ := toInt_eq_some_iff.mp integer
  obtain ⟨negative, mantissa, exponent, fits, rfl⟩ := exists_finite isFinite
  have magnitude : scaled mantissa exponent = 0 ↔ mantissa = 0 := scaled_eq_zero
  have zero : (i : Rat) = 0 ↔ i = 0 := Int.cast_eq_zero
  rw [← zero, ← whole]
  cases negative <;> simp [isZero, value, magnitude]

theorem plainZero_of_zero {d : Double} (integer : d.toInt? = some 0) : d.plainZero = signedZero false :=
  if_pos ((isZero_iff integer).mpr rfl)

theorem plainZero_of_nonzero {d : Double} {i : Int} (integer : d.toInt? = some i) (nonzero : i ≠ 0) :
    d.plainZero = d :=
  if_neg fun isZero => nonzero ((isZero_iff integer).mp isZero)

theorem value_plainZero (d : Double) : d.plainZero.value = d.value := by
  cases d with
  | finite negative mantissa exponent fits =>
    by_cases zero : mantissa = 0
    · subst zero
      cases negative <;> simp [plainZero, isZero, signedZero, value, scaled]
    · simp [plainZero, isZero, zero]
  | _ => rfl

theorem toInt_plainZero {d : Double} {i : Int} (integer : d.toInt? = some i) : d.plainZero.toInt? = some i := by
  obtain ⟨isFinite, whole⟩ := toInt_eq_some_iff.mp integer
  refine toInt_eq_some_iff.mpr ⟨?_, by rw [value_plainZero, whole]⟩
  unfold plainZero
  split
  · rfl
  · exact isFinite

theorem plainZero_ofInt {i : Int} (small : i.natAbs ≤ greatestExact) : (ofInt i).plainZero = ofInt i := by
  by_cases zero : i = 0
  · subst zero
    rfl
  · exact plainZero_of_nonzero (toInt_ofInt small) zero

/-- The double of the sign and magnitude of an integer is any double that is
    the integer, but for the sign of zero. -/
theorem ofMagnitude_of_toInt {d : Double} {i : Int} (integer : d.toInt? = some i) (nonzero : i ≠ 0) :
    ofMagnitude (i < 0) i.natAbs = d := by
  obtain ⟨isFinite, whole⟩ := toInt_eq_some_iff.mp integer
  obtain ⟨negative, mantissa, exponent, fits, rfl⟩ := exists_finite isFinite
  have nonneg := scaled_nonneg mantissa exponent
  cases negative with
  | false =>
    have magnitude : scaled mantissa exponent = i := by simpa [value] using whole
    have positive : 0 < i := by
      have least : (0 : Rat) ≤ i := magnitude ▸ nonneg
      have notBelow : 0 ≤ i := by exact_mod_cast least
      omega
    have same : ((i.natAbs : Nat) : Rat) = scaled mantissa exponent := by
      rw [magnitude, ← Int.cast_natCast, Int.natAbs_of_nonneg (le_of_lt positive)]
    rw [same, decide_eq_false (by omega), ofMagnitude_scaled]
  | true =>
    have magnitude : scaled mantissa exponent = -(i : Rat) := by
      rw [← whole]
      simp [value]
    have negative : i < 0 := by
      have most : (i : Rat) ≤ 0 := by linarith
      have notAbove : i ≤ 0 := by exact_mod_cast most
      omega
    have same : ((i.natAbs : Nat) : Rat) = scaled mantissa exponent := by
      rw [magnitude, ← Int.cast_natCast, Int.ofNat_natAbs_of_nonpos (le_of_lt negative), Int.cast_neg]
    rw [same, decide_eq_true negative, ofMagnitude_scaled]

end CqlTable.Double
