import CqlTable.Proofs.Number.ShortestNumerals

/-!
# Overflow: magnitudes past the range of a format

A magnitude is rounded past the greatest value of a format exactly when it
reaches half of a last place above it (`nearest_fits_iff`). So numbers and
integers become infinite from the limit of their format on
(`isFinite_ofMagnitude_iff`, `isFinite_toSingle_iff`), and what is past the
limit of single precision stays past it when it is first rounded to a double
(`not_isFinite_toSingle_ofMagnitude`). Where the count of digits settles the
double of a decimal numeral, rounding gives the same (`ofDecimal_eq_ofMagnitude`).
-/

namespace CqlTable.Number

variable {f : Format} {q : Rat}

/-! ## The limit of a format -/

/-- Half of a last place above the greatest value of the format. -/
def Format.limit (f : Format) : Rat := (2 ^ f.precision - 1 / 2) * (2 : Rat) ^ f.maxExponent

theorem limit_lt (f : Format) : f.limit < (2 : Rat) ^ (f.maxExponent + f.precision) := by
  have power : (0 : Rat) < 2 ^ f.maxExponent := by positivity
  rw [Format.limit, add_comm, zpow_add₀ two_ne_zero, zpow_natCast]
  exact mul_lt_mul_of_pos_right (by linarith) power

theorem le_limit (digits : 0 < f.precision) : (2 : Rat) ^ (f.maxExponent + f.precision - 1) ≤ f.limit := by
  have power : (0 : Rat) < 2 ^ f.maxExponent := by positivity
  obtain ⟨before, width⟩ : ∃ before, f.precision = before + 1 := ⟨f.precision - 1, by omega⟩
  have one : (1 : Rat) ≤ 2 ^ before := one_le_pow₀ one_le_two
  have place : f.maxExponent + f.precision - 1 = before + f.maxExponent := by omega
  rw [Format.limit, place, zpow_add₀ two_ne_zero, zpow_natCast, width, pow_succ]
  exact mul_le_mul_of_nonneg_right (by linarith) power.le

theorem limit_pos (digits : 0 < f.precision) : 0 < f.limit := lt_of_lt_of_le (by positivity) (le_limit digits)

/-- A half below an even integer goes up to it. -/
theorem le_nearestEven_of_half {n : Int} (even : n % 2 = 0) (half : (n : Rat) - 1 / 2 ≤ q) : n ≤ nearestEven q := by
  by_cases above : (n : Rat) ≤ q
  · exact le_nearestEven above
  · have floor : q.floor = n - 1 := by
      show ⌊q⌋ = n - 1
      rw [Int.floor_eq_iff]
      push_cast
      constructor <;> linarith
    have odd : ¬ (n - 1) % 2 = 0 := by omega
    simp only [nearestEven, floor, if_neg odd]
    push_cast
    rw [if_neg (by linarith), sub_add_cancel]
    split <;> exact le_refl n

/-! ## Rounding past the greatest value -/

theorem not_fits_of_limit (digits : 0 < f.precision) (reaches : f.limit ≤ q) :
    ¬ f.Fits (f.nearest q).1 (f.nearest q).2 := by
  have positive : 0 < q := (limit_pos digits).trans_le reaches
  have log : f.maxExponent + f.precision - 1 < floorLog2 q + 1 :=
    (zpow_lt_zpow_iff_right₀ one_lt_two).mp (((le_limit digits).trans reaches).trans_lt (floorLog2_spec positive).2)
  have last : f.lastPlace q = max f.minExponent (floorLog2 q - (f.precision - 1)) := rfl
  have power : (0 : Rat) < (2 : Rat) ^ f.lastPlace q := by positivity
  rintro ⟨-, -, greatest, -⟩
  simp only [Format.nearest, if_neg positive.ne'] at greatest
  split at greatest
  · simp only [] at greatest
    omega
  · rename_i noCarry
    simp only [] at greatest
    have place : f.lastPlace q = f.maxExponent := by omega
    have even : (Nat.pow 2 f.precision : Int) % 2 = 0 := by
      obtain ⟨before, width⟩ : ∃ before, f.precision = before + 1 := ⟨f.precision - 1, by omega⟩
      have double : Nat.pow 2 f.precision = Nat.pow 2 before * 2 := by rw [width]; rfl
      omega
    have carries : (Nat.pow 2 f.precision : Int) ≤ nearestEven (q / (2 : Rat) ^ f.lastPlace q) := by
      apply le_nearestEven_of_half even
      show (((2 ^ f.precision : Nat) : Int) : Rat) - 1 / 2 ≤ _
      rw [le_div_iff₀ power, place]
      push_cast
      exact reaches
    have most := (nearestEven_bounds positive digits).1
    omega

theorem fits_of_below_limit (digits : 0 < f.precision) (range : f.minExponent ≤ f.maxExponent) (nonneg : 0 ≤ q)
    (below : q < f.limit) : f.Fits (f.nearest q).1 (f.nearest q).2 := by
  rcases nonneg.eq_or_lt with zero | positive
  · rw [Format.nearest, if_pos zero.symm]
    exact ⟨Nat.pow_pos (by decide), le_refl _, range, Or.inr rfl⟩
  · have log : floorLog2 q < f.maxExponent + f.precision :=
      (zpow_lt_zpow_iff_right₀ one_lt_two).mp (((floorLog2_spec positive).1.trans_lt below).trans (limit_lt f))
    have last : f.lastPlace q = max f.minExponent (floorLog2 q - (f.precision - 1)) := rfl
    have power : (0 : Rat) < (2 : Rat) ^ f.lastPlace q := by positivity
    obtain ⟨narrow, full⟩ := nearestEven_bounds positive digits
    simp only [Format.nearest, if_neg positive.ne']
    split
    · rename_i carries
      -- Below the limit, no carry leaves the greatest exponent.
      have notLast : f.lastPlace q ≠ f.maxExponent := by
        intro isLast
        have error := (abs_le.mp (nearestEven_error (q / (2 : Rat) ^ f.lastPlace q))).2
        have whole : ((2 ^ f.precision : Nat) : Int) ≤ nearestEven (q / (2 : Rat) ^ f.lastPlace q) := by
          have some : 0 < Nat.pow 2 f.precision := Nat.pow_pos (by decide)
          show (Nat.pow 2 f.precision : Int) ≤ _
          omega
        have whole' : (2 : Rat) ^ f.precision ≤ nearestEven (q / (2 : Rat) ^ f.lastPlace q) := by exact_mod_cast whole
        have reaches : (2 : Rat) ^ f.precision - 1 / 2 ≤ q / (2 : Rat) ^ f.lastPlace q := by linarith
        rw [le_div_iff₀ power, isLast] at reaches
        exact absurd below (not_lt.mpr reaches)
      exact ⟨Nat.pow_lt_pow_right (by decide) (by omega), by omega, by omega, Or.inl (le_refl _)⟩
    · rename_i noCarry
      refine ⟨by omega, by omega, by omega, ?_⟩
      rcases full with full | least
      · exact Or.inl (by omega)
      · exact Or.inr least

/-- Rounding gives a value of the format below its limit and from there on
    none. -/
theorem nearest_fits_iff (digits : 0 < f.precision) (range : f.minExponent ≤ f.maxExponent) (nonneg : 0 ≤ q) :
    f.Fits (f.nearest q).1 (f.nearest q).2 ↔ q < f.limit :=
  ⟨fun fits => not_le.mp fun reaches => not_fits_of_limit digits reaches fits,
    fits_of_below_limit digits range nonneg⟩

end CqlTable.Number

namespace CqlTable.Double

open Number

variable {d : Double} {q : Rat}

/-! ## Doubles of magnitudes -/

theorem isFinite_ofMagnitude_iff (negative : Bool) (nonneg : 0 ≤ q) :
    (ofMagnitude negative q).isFinite = true ↔ q < double.limit := by
  rw [← nearest_fits_iff double_digits (by decide) nonneg, ofMagnitude]
  split
  · rename_i fits
    exact iff_of_true rfl fits
  · rename_i past
    exact iff_of_false Bool.false_ne_true past

theorem ofMagnitude_of_limit (negative : Bool) (reaches : double.limit ≤ q) :
    ofMagnitude negative q = infinite negative :=
  dif_neg (not_fits_of_limit double_digits reaches)

theorem abs_value {negative : Bool} {mantissa : Nat} {exponent : Int} (fits : double.Fits mantissa exponent) :
    |(finite negative mantissa exponent fits).value| = scaled mantissa exponent := by
  have nonneg := scaled_nonneg mantissa exponent
  cases negative <;> simp [value, abs_of_nonneg nonneg]

/-- A value of a format is below its limit. -/
theorem scaled_lt_limit {f : Format} {mantissa : Nat} {exponent : Int} (digits : 0 < f.precision)
    (range : f.minExponent ≤ f.maxExponent) (fits : f.Fits mantissa exponent) : scaled mantissa exponent < f.limit := by
  rw [← nearest_fits_iff digits range (scaled_nonneg mantissa exponent), nearest_scaled fits digits]
  exact fits

theorem abs_value_lt_limit (isFinite : d.isFinite = true) : |d.value| < double.limit := by
  obtain ⟨negative, mantissa, exponent, fits, rfl⟩ := exists_finite isFinite
  rw [abs_value fits]
  exact scaled_lt_limit double_digits (by decide) fits

/-! ## Single precision -/

theorem single_digits : 0 < single.precision := by decide

theorem single_limit_lt : single.limit < double.limit :=
  calc single.limit < (2 : Rat) ^ (single.maxExponent + single.precision) := limit_lt single
    _ ≤ (2 : Rat) ^ (double.maxExponent + double.precision - 1) := zpow_le_zpow_right₀ one_le_two (by decide)
    _ ≤ double.limit := le_limit double_digits

/-- A finite double has a nearest value of single precision below its limit. -/
theorem isFinite_toSingle_iff (isFinite : d.isFinite = true) :
    d.toSingle.isFinite = true ↔ |d.value| < single.limit := by
  obtain ⟨negative, mantissa, exponent, fits, rfl⟩ := exists_finite isFinite
  have range : single.minExponent ≤ single.maxExponent := by decide
  rw [abs_value fits, ← nearest_fits_iff single_digits range (scaled_nonneg mantissa exponent), toSingle]
  split
  · rename_i narrow
    have below := (scaled_lt_limit single_digits range narrow).trans single_limit_lt
    exact iff_of_true ((isFinite_ofMagnitude_iff negative (scaled_nonneg _ _)).mpr below) narrow
  · rename_i past
    exact iff_of_false Bool.false_ne_true past

/-- The limit of single precision is a double, so rounding to a double first
    does not go below it. -/
theorem not_isFinite_toSingle_ofMagnitude (negative : Bool) (reaches : single.limit ≤ q) :
    (ofMagnitude negative q).toSingle.isFinite = false := by
  have positive : 0 < q := (limit_pos single_digits).trans_le reaches
  by_cases past : double.limit ≤ q
  · rw [ofMagnitude_of_limit negative past]
    rfl
  · have fits := fits_of_below_limit double_digits (by decide) positive.le (not_le.mp past)
    have limit : scaled 33554431 103 = single.limit := by
      rw [scaled, Format.limit, single]
      norm_num
    have kept : single.limit ≤ scaled (double.nearest q).1 (double.nearest q).2 := by
      rw [← limit] at reaches ⊢
      exact scaled_le_nearest positive double_digits (by decide) (by decide) reaches
    have isFinite : (ofMagnitude negative q).isFinite = true :=
      (isFinite_ofMagnitude_iff negative positive.le).mpr (not_le.mp past)
    rw [← Bool.not_eq_true, isFinite_toSingle_iff isFinite, not_lt, ofMagnitude, dif_pos fits, abs_value]
    exact kept

/-! ## Integers -/

theorem ofInt_eq_ofMagnitude (i : Int) : ofInt i = ofMagnitude (i < 0) |(i : Rat)| := by
  by_cases negative : i < 0
  · have below : (i : Rat) < 0 := by exact_mod_cast negative
    rw [ofInt, ofRat, if_pos below, decide_eq_true negative, abs_of_neg below]
  · have above : ¬ (i : Rat) < 0 := by exact_mod_cast negative
    rw [ofInt, ofRat, if_neg above, decide_eq_false negative, abs_of_nonneg (not_lt.mp above)]

theorem isFinite_ofInt_iff (i : Int) : (ofInt i).isFinite = true ↔ |(i : Rat)| < double.limit := by
  rw [ofInt_eq_ofMagnitude, isFinite_ofMagnitude_iff _ (abs_nonneg _)]

/-! ## Decimal numerals -/

theorem two_pow_le (count : Nat) : (2 : Rat) ^ (3 * count : Int) ≤ (10 : Rat) ^ (count : Int) := by
  rw [zpow_mul, zpow_natCast, zpow_natCast]
  exact pow_le_pow_left₀ (by norm_num) (by norm_num) count

theorem ofMagnitude_of_tiny (negative : Bool) {q : Rat} (nonneg : 0 ≤ q) (tiny : q < (10 : Rat) ^ (-399 : Int)) :
    ofMagnitude negative q = signedZero negative := by
  have zero : double.nearest q = (0, -1074) := by
    rcases nonneg.eq_or_lt with rfl | positive
    · rfl
    · have unit : (10 : Rat) ^ (-399 : Int) ≤ 2 ^ (-1197 : Int) := by
        have power := two_pow_le 399
        rw [zpow_neg, zpow_neg]
        exact inv_anti₀ (by positivity) power
      have below : q < (2 : Rat) ^ (-1197 : Int) := tiny.trans_le unit
      have log : floorLog2 q < -1197 :=
        (zpow_lt_zpow_iff_right₀ one_lt_two).mp ((floorLog2_spec positive).1.trans_lt below)
      have place : double.lastPlace q = -1074 := by
        simp only [Format.lastPlace, double]
        omega
      have power : (0 : Rat) < 2 ^ (-1074 : Int) := by positivity
      have small : q / 2 ^ (-1074 : Int) < 1 / 2 := by
        rw [div_lt_iff₀ power]
        calc q < (2 : Rat) ^ (-1197 : Int) := below
          _ ≤ 2 ^ (-1 + -1074 : Int) := zpow_le_zpow_right₀ one_le_two (by decide)
          _ = 1 / 2 * 2 ^ (-1074 : Int) := by rw [zpow_add₀ two_ne_zero, zpow_neg_one, one_div]
      have rounded : nearestEven (q / 2 ^ (-1074 : Int)) = 0 := by
        refine nearestEven_of_near ?_
        rw [Int.cast_zero, sub_zero, abs_of_pos (div_pos positive power)]
        exact small
      simp only [Format.nearest, if_neg positive.ne', place, rounded]
      rfl
  have fits : double.Fits (double.nearest q).1 (double.nearest q).2 := by
    rw [zero]
    decide
  rw [ofMagnitude, dif_pos fits]
  simp only [zero, signedZero]

/-- The double of a numeral is that of its value: where the count of digits
    settles it, rounding would give the same. -/
theorem ofDecimal_eq_ofMagnitude (negative : Bool) (digits : Nat) (exponent : Int) :
    ofDecimal negative digits exponent = ofMagnitude negative (digits * (10 : Rat) ^ exponent) := by
  have unit : (0 : Rat) < 10 ^ exponent := by positivity
  have ten : (1 : Rat) ≤ 10 := by norm_num
  rcases Nat.eq_zero_or_pos digits with rfl | some
  · rw [ofDecimal, if_pos rfl, Nat.cast_zero, zero_mul, ofMagnitude_of_tiny negative le_rfl (by positivity)]
  · obtain ⟨least, most⟩ := log10_spec some
    have least : (10 : Rat) ^ ((log10 digits : Int) + exponent) ≤ digits * 10 ^ exponent := by
      rw [zpow_add₀ (by norm_num), zpow_natCast]
      exact mul_le_mul_of_nonneg_right (by exact_mod_cast least) unit.le
    have most : digits * (10 : Rat) ^ exponent < 10 ^ ((log10 digits + 1 : Int) + exponent) := by
      rw [zpow_add₀ (by norm_num)]
      exact mul_lt_mul_of_pos_right (by exact_mod_cast most) unit
    rw [ofDecimal, if_neg some.ne']
    split
    · rename_i huge
      refine (ofMagnitude_of_limit negative ?_).symm
      calc double.limit ≤ (2 : Rat) ^ (double.maxExponent + double.precision) := (limit_lt double).le
        _ ≤ 2 ^ (3 * (400 : Nat) : Int) := zpow_le_zpow_right₀ one_le_two (by decide)
        _ ≤ 10 ^ (400 : Int) := two_pow_le 400
        _ ≤ 10 ^ ((log10 digits : Int) + exponent) := zpow_le_zpow_right₀ ten (by omega)
        _ ≤ digits * 10 ^ exponent := least
    · split
      · rename_i tiny
        have below : (10 : Rat) ^ ((log10 digits + 1 : Int) + exponent) ≤ 10 ^ (-399 : Int) :=
          zpow_le_zpow_right₀ ten (by omega)
        rw [ofMagnitude_of_tiny negative (by positivity) (most.trans_le below)]
      · rfl

/-- The digits of an integer stand for any double that is it, but for the sign
    of zero. -/
theorem ofDecimal_of_toInt {i : Int} (integer : d.toInt? = some i) :
    ofDecimal (i < 0) i.natAbs 0 = d.plainZero := by
  by_cases zero : i = 0
  · subst zero
    rw [plainZero_of_zero integer]
    rfl
  · rw [ofDecimal_eq_ofMagnitude, zpow_zero, mul_one, ofMagnitude_of_toInt integer zero,
      plainZero_of_nonzero integer zero]

end CqlTable.Double
