import CqlTable.Proofs.Conversion.Null
import CqlTable.Proofs.Number.SignificantDigits

/-!
# Single precision: values that are written and read again

A value of single precision is its own nearest single
(`Double.toSingle_of_single`). Its fifteen digits are so near to it that rounding
them to a double and that to a single finds it again, next to a power of two,
among the least values and at the greatest one
(`Double.toSingle_of_near`). So what is written in a column of single precision
is read as the same value, with its sign (`single_round_trip`).
-/

namespace CqlTable.Double

open Number

variable {d : Double} {mantissa : Nat} {exponent : Int}

/-! ## Doubles of single precision -/

/-- The magnitude of the double is the value of single precision. -/
def IsSingle (d : Double) (mantissa : Nat) (exponent : Int) : Prop :=
  single.Fits mantissa exponent ∧ |d.value| = scaled mantissa exponent

/-- Each number with few enough binary digits is of single precision. -/
theorem exists_isSingle {m e : Int} (value : d.value = m * (2 : Rat) ^ e) (narrow : |m| < 2 ^ 24)
    (range : -149 ≤ e ∧ e ≤ 104) : ∃ mantissa exponent, d.IsSingle mantissa exponent := by
  have magnitude : |d.value| = scaled m.natAbs e := by
    have power : (0 : Rat) < 2 ^ e := by positivity
    rw [value, abs_mul, abs_of_pos power, scaled, ← Int.cast_abs, Int.abs_eq_natAbs, Int.cast_natCast]
  have narrow' : m.natAbs < 2 ^ single.precision := by
    rw [Int.abs_eq_natAbs] at narrow
    exact_mod_cast narrow
  have below : scaled m.natAbs e < single.limit := by
    have small : (m.natAbs : Rat) < 2 ^ single.precision - 1 / 2 := by
      have less : (m.natAbs : Rat) + 1 ≤ 2 ^ single.precision := by exact_mod_cast narrow'
      linarith
    calc scaled m.natAbs e ≤ m.natAbs * (2 : Rat) ^ single.maxExponent :=
          mul_le_mul_of_nonneg_left (zpow_le_zpow_right₀ one_le_two range.2) (Nat.cast_nonneg _)
      _ < single.limit := mul_lt_mul_of_pos_right small (by positivity)
  refine ⟨_, _, fits_of_below_limit single_digits (by decide) (scaled_nonneg _ _) below, ?_⟩
  rw [magnitude, scaled_nearest_of_narrow single_digits narrow' range.1]

/-- A double whose nearest single is that of another double of its sign. -/
theorem toSingle_eq {a : Double} (isFinite : a.isFinite = true) (isFinite' : d.isFinite = true)
    (sign : a.isNegative = d.isNegative) (isSingle : d.IsSingle mantissa exponent)
    (nearest : single.nearest |a.value| = (mantissa, exponent)) : a.toSingle = d := by
  obtain ⟨negative, n, e, fits, rfl⟩ := exists_finite isFinite
  obtain ⟨negative', n', e', fits', rfl⟩ := exists_finite isFinite'
  obtain ⟨narrow, value⟩ := isSingle
  have same : negative = negative' := sign
  rw [abs_value] at nearest value
  simp only [toSingle, nearest, if_pos narrow]
  rw [← value, ofMagnitude_scaled, same]

theorem toSingle_of_single (isFinite : d.isFinite = true) (isSingle : d.IsSingle mantissa exponent) :
    d.toSingle = d := by
  apply toSingle_eq isFinite isFinite rfl isSingle
  rw [isSingle.2]
  exact nearest_scaled isSingle.1 single_digits

/-- A magnitude that is off by half of the fifteenth digit is rounded to a double
    and that to the single. -/
theorem toSingle_of_near (isFinite : d.isFinite = true) (isSingle : d.IsSingle mantissa exponent)
    (positive : 0 < mantissa) {r : Rat} (near : |r - (|d.value|)| * (2 * 10 ^ 14) ≤ |d.value|) :
    (ofMagnitude d.isNegative r).toSingle = d := by
  obtain ⟨fits, value⟩ := id isSingle
  have least : (2 : Rat) ^ (-149 : Int) ≤ scaled mantissa exponent := by
    have one : (1 : Rat) ≤ mantissa := by exact_mod_cast positive
    calc (2 : Rat) ^ (-149 : Int) ≤ 2 ^ exponent := zpow_le_zpow_right₀ one_le_two fits.2.1
      _ ≤ mantissa * 2 ^ exponent := le_mul_of_one_le_left (by positivity) one
  have most : scaled mantissa exponent < (2 : Rat) ^ (128 : Int) :=
    (scaled_lt_limit single_digits (by decide) fits).trans (limit_lt single)
  rw [value] at near
  generalize magnitude : scaled mantissa exponent = q at *
  have apart := abs_le.mp (le_refl |r - q|)
  have low : q ≤ r * 2 := by linarith
  have high : r ≤ q * 2 := by linarith
  have above : 0 < r := by
    have power : (0 : Rat) < 2 ^ (-149 : Int) := by positivity
    linarith
  have normal : (2 : Rat) ^ (double.minExponent + double.precision - 1) ≤ r := by
    have small : (2 : Rat) ^ (double.minExponent + double.precision - 1) * 2 ≤ 2 ^ (-149 : Int) := by
      rw [← zpow_add_one₀ two_ne_zero]
      exact zpow_le_zpow_right₀ one_le_two (by decide)
    linarith
  have below : r < double.limit := by
    have wide : (2 : Rat) ^ (128 : Int) * 2 ≤ double.limit := by
      rw [← zpow_add_one₀ two_ne_zero]
      exact (zpow_le_zpow_right₀ one_le_two (by decide)).trans (le_limit double_digits)
    linarith
  have fitsDouble := fits_of_below_limit double_digits (by decide) above.le below
  have double : |(ofMagnitude d.isNegative r).value| = scaled (double.nearest r).1 (double.nearest r).2 := by
    rw [ofMagnitude, dif_pos fitsDouble, abs_value]
  have relative := nearest_relative double_digits normal
  apply toSingle_eq ((isFinite_ofMagnitude_iff _ above.le).mpr below) isFinite (isNegative_ofMagnitude _ _) isSingle
  rw [double]
  apply nearest_of_near fits single_digits
  rw [magnitude]
  generalize scaled (Number.double.nearest r).1 (Number.double.nearest r).2 = rounded at *
  have digits : (Number.double.precision : Nat) = 53 := rfl
  have quarter : ((4 * Nat.pow 2 (single.precision - 1) : Nat) : Rat) = 2 ^ 25 := by
    norm_num [single]
  rw [digits] at relative
  rw [quarter]
  -- The distances to the digits and to their double add up.
  have triangle : |rounded - q| ≤ |rounded - r| + |r - q| := abs_sub_le rounded r q
  linarith

theorem ofMagnitude_abs_value (isFinite : d.isFinite = true) : ofMagnitude d.isNegative |d.value| = d := by
  obtain ⟨negative, n, e, fits, rfl⟩ := exists_finite isFinite
  rw [abs_value]
  exact ofMagnitude_scaled negative fits

end CqlTable.Double

namespace CqlTable

open Number

variable {d : Double}

/-! ## Columns of single precision -/

/-- A number is read as the single nearest to the double nearest to it. -/
theorem readFloating_spelled {text : String} {negative : Bool} {r : Rat} (spelled : SpellsDecimal text negative r)
    (rounded : (Double.ofMagnitude negative r).toSingle = d) (isFinite : d.isFinite = true) :
    readFloating .float text = .ok d := by
  have read := ofText_of_spells spelled
  simp only [readFloating, nonFinite_of_ofText read, read, rounded, isFinite, if_true]

/-- Each number of single precision, zero of either sign among them, is written
    in a column of single precision. What is written spells a decimal number
    whose nearest double has the number as its nearest single, and so it is read
    as the number. -/
theorem single_round_trip (zone : Calendar.Zone) {m e : Int} (isFinite : d.isFinite = true)
    (value : d.value = m * (2 : Rat) ^ e) (narrow : |m| < 2 ^ 24) (range : -149 ≤ e ∧ e ≤ 104) :
    ∃ (text : String) (r : Rat), encode zone (.floating .float) (.scalar (.number d)) = .ok (.bare text) ∧
      SpellsDecimal text d.isNegative r ∧ (Double.ofMagnitude d.isNegative r).toSingle = d ∧
      decode (.floating .float) text = .ok (some (.number d)) := by
  obtain ⟨mantissa, exponent, isSingle⟩ := Double.exists_isSingle value narrow range
  have single := Double.toSingle_of_single isFinite isSingle
  have written : encode zone (.floating .float) (.scalar (.number d)) = .ok (.bare (d.generalText singleDigits)) := by
    simp [encode, encodeScalar, encodeFloating, floatingValue, single, isFinite]
  obtain ⟨r, spelled, near⟩ : ∃ r : Rat, SpellsDecimal (d.generalText singleDigits) d.isNegative r ∧
      |r - (|d.value|)| * (2 * 10 ^ 14) ≤ |d.value| := Double.generalText_near singleDigits_le isFinite
  have rounded : (Double.ofMagnitude d.isNegative r).toSingle = d := by
    rcases Nat.eq_zero_or_pos mantissa with rfl | positive
    · have zero : |d.value| = 0 := by simp [isSingle.2, scaled]
      rw [zero, sub_zero] at near
      obtain rfl : r = 0 := abs_nonpos_iff.mp (by linarith)
      rw [← zero, Double.ofMagnitude_abs_value isFinite, single]
    · exact Double.toSingle_of_near isFinite isSingle positive near
  refine ⟨_, r, written, spelled, rounded, ?_⟩
  rw [decode_of_not_marksNull (not_marksNull_generalText singleDigits_le d), decodeScalar,
    readFloating_spelled spelled rounded isFinite]
  rfl

/-- The greatest number of single precision, whose digits stand for more than it
    is, and the least one, with a minus sign. -/
theorem single_bounds_read :
    let greatest := Double.ofRat (16777215 * 2 ^ 104)
    let least := Double.ofRat (-(2 : Rat) ^ (-149 : Int))
    greatest.value < 340282346638529 * 10 ^ 24 ∧
      encode .utc (.floating .float) (.scalar (.number greatest)) = .ok (.bare "3.40282346638529e+38") ∧
      decode (.floating .float) "3.40282346638529e+38" = .ok (some (.number greatest)) ∧
      encode .local (.floating .float) (.scalar (.number least)) = .ok (.bare "-1.40129846432482e-45") ∧
      decode (.floating .float) "-1.40129846432482e-45" = .ok (some (.number least)) := by
  intro greatest least
  have value : greatest.value = (16777215 : Int) * (2 : Rat) ^ (104 : Int) := by decide +kernel
  have written : encode .utc (.floating .float) (.scalar (.number greatest)) = .ok (.bare "3.40282346638529e+38") := by
    decide +kernel
  have valueLeast : least.value = (-1 : Int) * (2 : Rat) ^ (-149 : Int) := by decide +kernel
  have writtenLeast : encode .local (.floating .float) (.scalar (.number least)) =
      .ok (.bare "-1.40129846432482e-45") := by
    decide +kernel
  obtain ⟨text, r, writes, -, -, reads⟩ := single_round_trip .utc (by decide +kernel) value (by decide) (by decide)
  obtain ⟨textLeast, rLeast, writesLeast, -, -, readsLeast⟩ :=
    single_round_trip .local (by decide +kernel) valueLeast (by decide) (by decide)
  cases written.symm.trans writes
  cases writtenLeast.symm.trans writesLeast
  exact ⟨by rw [value]; norm_num, written, reads, writtenLeast, readsLeast⟩

end CqlTable
