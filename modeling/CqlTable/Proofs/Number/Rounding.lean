import CqlTable.Number.Format
import Mathlib.Algebra.Order.Field.Power
import Mathlib.Data.Rat.Floor
import Mathlib.Tactic.FieldSimp
import Mathlib.Tactic.Linarith
import Mathlib.Tactic.Positivity
import Mathlib.Tactic.Ring

/-!
# Rounding: what a binary format holds and what it loses

The exponent of a rational is found from those of its parts
(`floorLog2_spec`). Rounding to a format keeps the values of the format
(`nearest_scaled`), gives one of its values (`nearest_fits`), and goes at most
half of the last place away (`nearest_error`). Integers of at most as many
digits as the format has are among its values (`exists_fits_natCast`).
-/

namespace CqlTable.Number

/-! ## Exponents of rationals -/

theorem floorLogFrom_spec {base : Nat} {guess : Int} {q : Rat} (low : (base : Rat) ^ (guess - 1) ≤ q)
    (high : q < (base : Rat) ^ (guess + 1)) :
    (base : Rat) ^ floorLogFrom base guess q ≤ q ∧ q < (base : Rat) ^ (floorLogFrom base guess q + 1) := by
  unfold floorLogFrom
  split
  · exact ⟨by assumption, high⟩
  · rename_i above
    rw [sub_add_cancel]
    exact ⟨low, not_le.mp above⟩

/-- The exponent of a quotient is that of its parts, or one less. -/
theorem quotient_bounds {base a b logA logB : Nat} (baseLarge : 2 ≤ base)
    (lowA : base ^ logA ≤ a) (highA : a < base ^ (logA + 1))
    (lowB : base ^ logB ≤ b) (highB : b < base ^ (logB + 1)) :
    (base : Rat) ^ ((logA : Int) - logB - 1) ≤ (a : Rat) / b ∧
      (a : Rat) / b < (base : Rat) ^ ((logA : Int) - logB + 1) := by
  have basePos : (0 : Rat) < base := by
    have : 0 < base := by omega
    exact_mod_cast this
  have bPos : (0 : Rat) < b := by
    have : 0 < b := lt_of_lt_of_le (Nat.pow_pos (by omega)) lowB
    exact_mod_cast this
  have lowA' : (base : Rat) ^ logA ≤ a := by exact_mod_cast lowA
  have highA' : (a : Rat) < (base : Rat) ^ (logA + 1) := by exact_mod_cast highA
  have lowB' : (base : Rat) ^ logB ≤ b := by exact_mod_cast lowB
  have highB' : (b : Rat) < (base : Rat) ^ (logB + 1) := by exact_mod_cast highB
  constructor
  · rw [le_div_iff₀ bPos]
    calc (base : Rat) ^ ((logA : Int) - logB - 1) * b
        ≤ (base : Rat) ^ ((logA : Int) - logB - 1) * (base : Rat) ^ (logB + 1) :=
          mul_le_mul_of_nonneg_left highB'.le (zpow_pos basePos _).le
      _ = (base : Rat) ^ logA := by
          rw [← zpow_natCast, ← zpow_add₀ basePos.ne', ← zpow_natCast]
          congr 1
          push_cast
          ring
      _ ≤ a := lowA'
  · rw [div_lt_iff₀ bPos]
    calc (a : Rat) < (base : Rat) ^ (logA + 1) := highA'
      _ = (base : Rat) ^ ((logA : Int) - logB + 1) * (base : Rat) ^ logB := by
          rw [← zpow_natCast, ← zpow_natCast, ← zpow_add₀ basePos.ne']
          congr 1
          push_cast
          ring
      _ ≤ (base : Rat) ^ ((logA : Int) - logB + 1) * b :=
          mul_le_mul_of_nonneg_left lowB' (zpow_pos basePos _).le

theorem rat_eq_natAbs_div {q : Rat} (positive : 0 < q) : q = (q.num.natAbs : Rat) / q.den := by
  have numerator : (q.num.natAbs : Int) = q.num := Int.natAbs_of_nonneg (Rat.num_pos.mpr positive).le
  rw [← Int.cast_natCast, numerator, Rat.num_div_den]

theorem floorLog2_spec {q : Rat} (positive : 0 < q) :
    (2 : Rat) ^ floorLog2 q ≤ q ∧ q < (2 : Rat) ^ (floorLog2 q + 1) := by
  have numerator : q.num.natAbs ≠ 0 := by
    have := Rat.num_pos.mpr positive
    omega
  have bounds := quotient_bounds (le_refl 2) (Nat.log2_self_le numerator) Nat.lt_log2_self
    (Nat.log2_self_le q.den_ne_zero) Nat.lt_log2_self
  rw [← rat_eq_natAbs_div positive] at bounds
  exact floorLogFrom_spec bounds.1 bounds.2

theorem floorLog2_eq {q : Rat} {e : Int} (low : (2 : Rat) ^ e ≤ q) (high : q < (2 : Rat) ^ (e + 1)) :
    floorLog2 q = e := by
  have positive : 0 < q := lt_of_lt_of_le (by positivity) low
  obtain ⟨lowLog, highLog⟩ := floorLog2_spec positive
  have up : e < floorLog2 q + 1 := (zpow_lt_zpow_iff_right₀ one_lt_two).mp (lt_of_le_of_lt low highLog)
  have down : floorLog2 q < e + 1 := (zpow_lt_zpow_iff_right₀ one_lt_two).mp (lt_of_le_of_lt lowLog high)
  omega

/-! ## Rounding to integers -/

theorem nearestEven_intCast (n : Int) : nearestEven n = n := by
  simp [nearestEven]

/-- Rounding goes to an integer at most a half away. -/
theorem nearestEven_error (q : Rat) : |(nearestEven q : Rat) - q| ≤ 1 / 2 := by
  have low : (q.floor : Rat) ≤ q := Int.floor_le q
  have high : q < q.floor + 1 := Int.lt_floor_add_one q
  rw [abs_le]
  simp only [nearestEven]
  split
  · constructor <;> linarith
  · split
    · push_cast
      constructor <;> linarith
    · split
      · constructor <;> linarith
      · push_cast
        constructor <;> linarith

theorem nearestEven_nonneg {q : Rat} (positive : 0 ≤ q) : 0 ≤ nearestEven q := by
  have error := abs_le.mp (nearestEven_error q)
  have above : (-1 : Rat) < nearestEven q := by linarith [error.1]
  have : (-1 : Int) < nearestEven q := by exact_mod_cast above
  omega

/-! ## Rounding to a format -/

variable {f : Format}

theorem scaled_nonneg (mantissa : Nat) (exponent : Int) : 0 ≤ scaled mantissa exponent := by
  unfold scaled
  positivity

theorem scaled_pos {mantissa : Nat} (positive : 0 < mantissa) (exponent : Int) : 0 < scaled mantissa exponent := by
  unfold scaled
  positivity

theorem scaled_eq_zero {mantissa : Nat} {exponent : Int} : scaled mantissa exponent = 0 ↔ mantissa = 0 := by
  have power : (2 : Rat) ^ exponent ≠ 0 := by positivity
  simp [scaled, power]

theorem floorLog2_scaled {mantissa : Nat} (positive : 0 < mantissa) (exponent : Int) :
    floorLog2 (scaled mantissa exponent) = mantissa.log2 + exponent := by
  have power : (0 : Rat) < 2 ^ exponent := by positivity
  have low : (2 : Rat) ^ mantissa.log2 ≤ mantissa := by exact_mod_cast Nat.log2_self_le positive.ne'
  have high : (mantissa : Rat) < 2 ^ (mantissa.log2 + 1) := by exact_mod_cast Nat.lt_log2_self
  apply floorLog2_eq
  · rw [zpow_add₀ two_ne_zero, zpow_natCast]
    exact mul_le_mul_of_nonneg_right low power.le
  · rw [show (mantissa.log2 : Int) + exponent + 1 = ((mantissa.log2 + 1 : Nat) : Int) + exponent from by
      push_cast; ring, zpow_add₀ two_ne_zero, zpow_natCast]
    exact mul_lt_mul_of_pos_right high power

theorem lastPlace_scaled {mantissa : Nat} {exponent : Int} (fits : f.Fits mantissa exponent)
    (digits : 0 < f.precision) (positive : 0 < mantissa) :
    f.lastPlace (scaled mantissa exponent) = exponent := by
  obtain ⟨narrow, least, greatest, form⟩ := fits
  have width : f.precision - 1 + 1 = f.precision := Nat.sub_add_cancel digits
  have below : mantissa.log2 < f.precision := (Nat.log2_lt positive.ne').mpr narrow
  rw [Format.lastPlace, floorLog2_scaled positive]
  rcases form with full | isLeast
  · have log : mantissa.log2 = f.precision - 1 := by
      rw [Nat.log2_eq_iff positive.ne', width]
      exact ⟨full, narrow⟩
    omega
  · omega

/-- Rounding keeps what the format holds. -/
theorem nearest_scaled {mantissa : Nat} {exponent : Int} (fits : f.Fits mantissa exponent)
    (digits : 0 < f.precision) : f.nearest (scaled mantissa exponent) = (mantissa, exponent) := by
  by_cases zero : mantissa = 0
  · obtain ⟨narrow, least, greatest, full | isLeast⟩ := fits
    · have : 0 < Nat.pow 2 (f.precision - 1) := Nat.pow_pos (by decide)
      omega
    · simp [Format.nearest, scaled, zero, isLeast]
  · have positive := Nat.pos_of_ne_zero zero
    have power : (2 : Rat) ^ exponent ≠ 0 := by positivity
    have quotient : scaled mantissa exponent / (2 : Rat) ^ exponent = ((mantissa : Int) : Rat) := by
      rw [scaled, mul_div_assoc, div_self power, mul_one, Int.cast_natCast]
    have nonzero : scaled mantissa exponent ≠ 0 := (scaled_pos positive exponent).ne'
    have narrow : ¬ mantissa = Nat.pow 2 f.precision := fits.1.ne
    simp only [Format.nearest, if_neg nonzero, lastPlace_scaled fits digits positive, quotient,
      nearestEven_intCast, Int.toNat_natCast, if_neg narrow]

/-- A value is a multiple of each place from its exponent down. -/
theorem scaled_of_le {place exponent : Int} (within : place ≤ exponent) (mantissa : Nat) :
    scaled mantissa exponent = (mantissa * 2 ^ (exponent - place).toNat : Nat) * (2 : Rat) ^ place := by
  have same : exponent = ((exponent - place).toNat : Int) + place := by omega
  rw [scaled]
  nth_rewrite 1 [same]
  rw [zpow_add₀ two_ne_zero, zpow_natCast]
  push_cast
  ring

theorem scaled_full (f : Format) (digits : 0 < f.precision) (exponent : Int) :
    scaled (Nat.pow 2 (f.precision - 1)) (exponent + 1) = scaled (Nat.pow 2 f.precision) exponent := by
  have width : f.precision - 1 + 1 = f.precision := Nat.sub_add_cancel digits
  have double : Nat.pow 2 f.precision = Nat.pow 2 (f.precision - 1) * 2 := by
    rw [← width]
    rfl
  rw [scaled, scaled, double, zpow_add₀ two_ne_zero]
  push_cast
  ring

/-- The significand before a carry is the rounded quotient. -/
theorem scaled_nearest {q : Rat} (positive : 0 < q) (digits : 0 < f.precision) :
    scaled (f.nearest q).1 (f.nearest q).2 =
      nearestEven (q / (2 : Rat) ^ f.lastPlace q) * (2 : Rat) ^ f.lastPlace q := by
  have integer : ((nearestEven (q / (2 : Rat) ^ f.lastPlace q)).toNat : Int) =
      nearestEven (q / (2 : Rat) ^ f.lastPlace q) :=
    Int.toNat_of_nonneg (nearestEven_nonneg (by positivity))
  have cast : ((nearestEven (q / (2 : Rat) ^ f.lastPlace q)).toNat : Rat) =
      nearestEven (q / (2 : Rat) ^ f.lastPlace q) := by exact_mod_cast integer
  simp only [Format.nearest, if_neg positive.ne']
  split
  · rename_i carries
    rw [scaled_full f digits, ← carries, scaled, cast]
  · rw [scaled, cast]

/-- What rounding gives is at most half of its last place away. -/
theorem nearest_error {q : Rat} (positive : 0 < q) (digits : 0 < f.precision) :
    |scaled (f.nearest q).1 (f.nearest q).2 - q| ≤ (2 : Rat) ^ f.lastPlace q / 2 := by
  have power : (0 : Rat) < (2 : Rat) ^ f.lastPlace q := by positivity
  have error := nearestEven_error (q / (2 : Rat) ^ f.lastPlace q)
  have apart : scaled (f.nearest q).1 (f.nearest q).2 - q =
      (nearestEven (q / (2 : Rat) ^ f.lastPlace q) - q / (2 : Rat) ^ f.lastPlace q) *
        (2 : Rat) ^ f.lastPlace q := by
    rw [scaled_nearest positive digits]
    field_simp
  rw [apart, abs_mul, abs_of_pos power]
  calc _ ≤ 1 / 2 * (2 : Rat) ^ f.lastPlace q := mul_le_mul_of_nonneg_right error power.le
    _ = (2 : Rat) ^ f.lastPlace q / 2 := by ring

/-- Where the significand is full, that is a small part of the number. -/
theorem nearest_relative {q : Rat} (digits : 0 < f.precision)
    (normal : (2 : Rat) ^ (f.minExponent + f.precision - 1) ≤ q) :
    |scaled (f.nearest q).1 (f.nearest q).2 - q| * 2 ^ f.precision ≤ q := by
  have positive : 0 < q := lt_of_lt_of_le (by positivity) normal
  obtain ⟨low, high⟩ := floorLog2_spec positive
  have log : f.minExponent + f.precision - 1 < floorLog2 q + 1 :=
    (zpow_lt_zpow_iff_right₀ one_lt_two).mp (normal.trans_lt high)
  have place : f.lastPlace q + f.precision = floorLog2 q + 1 := by
    unfold Format.lastPlace
    omega
  have whole : (2 : Rat) ^ f.lastPlace q * 2 ^ f.precision = 2 ^ floorLog2 q * 2 := by
    rw [← zpow_natCast, ← zpow_add₀ two_ne_zero, place, zpow_add_one₀ two_ne_zero]
  calc |scaled (f.nearest q).1 (f.nearest q).2 - q| * 2 ^ f.precision
      ≤ (2 : Rat) ^ f.lastPlace q / 2 * 2 ^ f.precision :=
        mul_le_mul_of_nonneg_right (nearest_error positive digits) (by positivity)
    _ = 2 ^ floorLog2 q := by linarith
    _ ≤ q := low

theorem nearestEven_le {q : Rat} {n : Int} (below : q ≤ n) : nearestEven q ≤ n := by
  have error := abs_le.mp (nearestEven_error q)
  have : (nearestEven q : Rat) < n + 1 := by linarith [error.2]
  have : nearestEven q < n + 1 := by exact_mod_cast this
  omega

theorem le_nearestEven {q : Rat} {n : Int} (above : n ≤ q) : n ≤ nearestEven q := by
  have error := abs_le.mp (nearestEven_error q)
  have : (n : Rat) < nearestEven q + 1 := by linarith [error.1]
  have : n < nearestEven q + 1 := by exact_mod_cast this
  omega

/-- The rounded significand has at most the digits of the format, and all of
    them unless the last place is the least one. -/
theorem nearestEven_bounds {q : Rat} (positive : 0 < q) (digits : 0 < f.precision) :
    nearestEven (q / (2 : Rat) ^ f.lastPlace q) ≤ Nat.pow 2 f.precision ∧
      (Nat.pow 2 (f.precision - 1) ≤ nearestEven (q / (2 : Rat) ^ f.lastPlace q) ∨
        f.lastPlace q = f.minExponent) := by
  obtain ⟨low, high⟩ := floorLog2_spec positive
  have last : f.lastPlace q = max f.minExponent (floorLog2 q - (f.precision - 1)) := rfl
  have power : (0 : Rat) < (2 : Rat) ^ f.lastPlace q := by positivity
  constructor
  · apply nearestEven_le
    show q / _ ≤ (((2 ^ f.precision : Nat) : Int) : Rat)
    rw [div_le_iff₀ power]
    push_cast
    rw [← zpow_natCast, ← zpow_add₀ two_ne_zero]
    exact high.le.trans (zpow_le_zpow_right₀ one_le_two (by omega))
  · by_cases least : f.lastPlace q = f.minExponent
    · exact Or.inr least
    · left
      apply le_nearestEven
      show (((2 ^ (f.precision - 1) : Nat) : Int) : Rat) ≤ q / _
      rw [le_div_iff₀ power]
      push_cast
      rw [← zpow_natCast, ← zpow_add₀ two_ne_zero]
      exact (zpow_le_zpow_right₀ one_le_two (by omega)).trans low

/-- Rounding does not go below a value of the format, nor below one that only
    its greatest exponent excludes. -/
theorem scaled_le_nearest {q : Rat} {mantissa : Nat} {exponent : Int} (positive : 0 < q) (digits : 0 < f.precision)
    (narrow : mantissa ≤ 2 ^ f.precision) (least : f.minExponent ≤ exponent) (low : scaled mantissa exponent ≤ q) :
    scaled mantissa exponent ≤ scaled (f.nearest q).1 (f.nearest q).2 := by
  have power : (0 : Rat) < (2 : Rat) ^ f.lastPlace q := by positivity
  rw [scaled_nearest positive digits]
  by_cases within : f.lastPlace q ≤ exponent
  -- The value is a multiple of the last place of the quotient.
  · have split := scaled_of_le within mantissa
    generalize (exponent - f.lastPlace q).toNat = shift at split
    have rounded : ((mantissa * 2 ^ shift : Nat) : Int) ≤ nearestEven (q / (2 : Rat) ^ f.lastPlace q) := by
      apply le_nearestEven
      rw [le_div_iff₀ power, Int.cast_natCast]
      exact split ▸ low
    have rounded' : ((mantissa * 2 ^ shift : Nat) : Rat) ≤ nearestEven (q / (2 : Rat) ^ f.lastPlace q) := by
      exact_mod_cast rounded
    rw [split]
    exact mul_le_mul_of_nonneg_right rounded' power.le
  · have full := (nearestEven_bounds positive digits).2.resolve_right (by omega)
    have full' : (2 : Rat) ^ (f.precision - 1) ≤ nearestEven (q / (2 : Rat) ^ f.lastPlace q) := by exact_mod_cast full
    have narrow' : (mantissa : Rat) ≤ 2 ^ f.precision := by exact_mod_cast narrow
    have place : (f.precision : Int) + exponent ≤ (f.precision - 1 : Nat) + f.lastPlace q := by omega
    calc scaled mantissa exponent ≤ 2 ^ f.precision * (2 : Rat) ^ exponent :=
          mul_le_mul_of_nonneg_right narrow' (by positivity)
      _ = (2 : Rat) ^ ((f.precision : Int) + exponent) := by rw [zpow_add₀ two_ne_zero, zpow_natCast]
      _ ≤ (2 : Rat) ^ (((f.precision - 1 : Nat) : Int) + f.lastPlace q) := zpow_le_zpow_right₀ one_le_two place
      _ = 2 ^ (f.precision - 1) * (2 : Rat) ^ f.lastPlace q := by rw [zpow_add₀ two_ne_zero, zpow_natCast]
      _ ≤ _ := mul_le_mul_of_nonneg_right full' power.le

/-- Rounding does not go below a power of two that the format can hold. -/
theorem le_scaled_nearest {q : Rat} {e : Int} (low : (2 : Rat) ^ e ≤ q) (digits : 0 < f.precision)
    (least : f.minExponent ≤ e) : (2 : Rat) ^ e ≤ scaled (f.nearest q).1 (f.nearest q).2 := by
  have one : scaled 1 e = (2 : Rat) ^ e := by simp [scaled]
  rw [← one] at low ⊢
  exact scaled_le_nearest ((scaled_pos Nat.one_pos e).trans_le low) digits Nat.one_le_two_pow least low

/-- A rational below the last power of two of a format is rounded to one of
    its values. -/
theorem nearest_fits {q : Rat} (positive : 0 < q) (digits : 0 < f.precision)
    (below : q < (2 : Rat) ^ (f.maxExponent + f.precision - 1)) (range : f.minExponent < f.maxExponent) :
    f.Fits (f.nearest q).1 (f.nearest q).2 := by
  have log : floorLog2 q < f.maxExponent + f.precision - 1 :=
    (zpow_lt_zpow_iff_right₀ one_lt_two).mp (lt_of_le_of_lt (floorLog2_spec positive).1 below)
  have last : f.lastPlace q = max f.minExponent (floorLog2 q - (f.precision - 1)) := rfl
  obtain ⟨narrow, full⟩ := nearestEven_bounds positive digits
  simp only [Format.nearest, if_neg positive.ne']
  split
  · exact ⟨Nat.pow_lt_pow_right (by decide) (by omega), by omega, by omega, Or.inl (le_refl _)⟩
  · rename_i noCarry
    refine ⟨by omega, by omega, by omega, ?_⟩
    rcases full with full | least
    · exact Or.inl (by omega)
    · exact Or.inr least

/-- Rounding keeps the numbers with few enough binary digits, however their
    exponent is chosen. -/
theorem scaled_nearest_of_narrow {mantissa : Nat} {exponent : Int} (digits : 0 < f.precision)
    (narrow : mantissa < 2 ^ f.precision) (least : f.minExponent ≤ exponent) :
    scaled (f.nearest (scaled mantissa exponent)).1 (f.nearest (scaled mantissa exponent)).2 =
      scaled mantissa exponent := by
  rcases Nat.eq_zero_or_pos mantissa with rfl | positive
  · simp [scaled, Format.nearest]
  · have log : mantissa.log2 < f.precision := (Nat.log2_lt positive.ne').mpr narrow
    have within : f.lastPlace (scaled mantissa exponent) ≤ exponent := by
      rw [Format.lastPlace, floorLog2_scaled positive]
      omega
    have power : (2 : Rat) ^ f.lastPlace (scaled mantissa exponent) ≠ 0 := by positivity
    have split := scaled_of_le within mantissa
    rw [scaled_nearest (scaled_pos positive exponent) digits]
    nth_rewrite 1 [split]
    rw [mul_div_assoc, div_self power, mul_one, ← Int.cast_natCast (R := Rat), nearestEven_intCast, Int.cast_natCast,
      ← split]

/-! ## Integers among the values of a format -/

/-- A number of at most `precision` binary digits is a value of the format. -/
theorem exists_fits_natCast {n : Nat} (digits : 0 < f.precision) (narrow : n ≤ 2 ^ f.precision)
    (least : f.minExponent ≤ 1 - f.precision) (greatest : 1 ≤ f.maxExponent) :
    ∃ mantissa exponent, f.Fits mantissa exponent ∧ scaled mantissa exponent = n := by
  have width : f.precision - 1 + 1 = f.precision := Nat.sub_add_cancel digits
  rcases Nat.eq_zero_or_pos n with rfl | positive
  · exact ⟨0, f.minExponent, ⟨Nat.pow_pos (by decide), le_refl _, by omega, Or.inr rfl⟩, by simp [scaled]⟩
  · by_cases full : n = 2 ^ f.precision
    · refine ⟨Nat.pow 2 (f.precision - 1), 1, ⟨?_, by omega, greatest, Or.inl (le_refl _)⟩, ?_⟩
      · exact Nat.pow_lt_pow_right (by decide) (by omega)
      · rw [show (1 : Int) = 0 + 1 from rfl, scaled_full f digits, scaled, full]
        simp
    · have log : n.log2 < f.precision := (Nat.log2_lt positive.ne').mpr (by omega)
      obtain ⟨shift, places⟩ : ∃ shift, n.log2 + shift + 1 = f.precision :=
        ⟨f.precision - 1 - n.log2, by omega⟩
      have low : 2 ^ n.log2 ≤ n := Nat.log2_self_le positive.ne'
      have high : n < 2 ^ (n.log2 + 1) := Nat.lt_log2_self
      refine ⟨n * 2 ^ shift, -(shift : Int), ⟨?_, by omega, by omega, Or.inl ?_⟩, ?_⟩
      · calc n * 2 ^ shift < 2 ^ (n.log2 + 1) * 2 ^ shift :=
              Nat.mul_lt_mul_of_pos_right high (Nat.pow_pos (by decide))
          _ = 2 ^ f.precision := by rw [← Nat.pow_add, ← places, Nat.add_right_comm]
      · calc 2 ^ (f.precision - 1) = 2 ^ n.log2 * 2 ^ shift := by
              rw [← Nat.pow_add, ← places, Nat.add_sub_cancel]
          _ ≤ n * 2 ^ shift := Nat.mul_le_mul_right _ low
      · have power : (2 : Rat) ^ shift ≠ 0 := by positivity
        rw [scaled, zpow_neg, zpow_natCast]
        push_cast
        field_simp

end CqlTable.Number
