import CqlTable.Proofs.Number.Grammar

/-!
# Numbers with a count of significant digits

Rounding to significant digits goes to the nearest of all numbers with so many,
and of two to the greater (`roundsTo_significant`). A positional text is rounded
anew, to its places; it has the same digits, also where the first rounding
carries into a digit more (`nearestUp_again`). So the text of a number spells
what rounding gives, in the form that its exponent asks for
(`Double.generalText_rounds`).
-/

namespace CqlTable.Number

open Text

/-! ## Rounding to the nearest -/

/-- The number has at most so many significant digits. -/
def HasDigits (count : Nat) (r : Rat) : Prop := ∃ (n : Nat) (e : Int), n < 10 ^ count ∧ r = n * (10 : Rat) ^ e

/-- The number `r` is nearer to `q` than `s` is, or as near and not smaller. -/
def Preferred (q r s : Rat) : Prop := |q - r| ≤ |q - s| ∧ (|q - s| = |q - r| → s ≤ r)

/-- Of the numbers with so many significant digits, the one nearest to `q`, and
    the greater of two that are as near. -/
structure RoundsTo (count : Nat) (q r : Rat) : Prop where
  digits : HasDigits count r
  preferred : ∀ s, HasDigits count s → Preferred q r s

variable {q : Rat}

theorem nearestUp_bounds (q : Rat) : (nearestUp q : Rat) - 1 / 2 ≤ q ∧ q < nearestUp q + 1 / 2 := by
  have low : ((q + 1 / 2).floor : Rat) ≤ q + 1 / 2 := Int.floor_le (q + 1 / 2)
  have high : q + 1 / 2 < (q + 1 / 2).floor + 1 := Int.lt_floor_add_one (q + 1 / 2)
  unfold nearestUp
  constructor
  · linarith
  · linarith

theorem nearestUp_error (q : Rat) : |(nearestUp q : Rat) - q| ≤ 1 / 2 := by
  obtain ⟨low, high⟩ := nearestUp_bounds q
  rw [abs_le]
  constructor
  · linarith
  · linarith

theorem nearestUp_eq {n : Int} (low : (n : Rat) - 1 / 2 ≤ q) (high : q < n + 1 / 2) : nearestUp q = n := by
  obtain ⟨below, above⟩ := nearestUp_bounds q
  have least : (n : Rat) < nearestUp q + 1 := by linarith
  have most : (nearestUp q : Rat) < n + 1 := by linarith
  have least : n < nearestUp q + 1 := by exact_mod_cast least
  have most : nearestUp q < n + 1 := by exact_mod_cast most
  omega

/-- The integer that is rounded to is preferred to all others. -/
theorem preferred_nearestUp (q : Rat) (n : Int) : Preferred q (nearestUp q) n := by
  obtain ⟨low, high⟩ := nearestUp_bounds q
  have error := nearestUp_error q
  rw [abs_sub_comm] at error
  rcases Int.lt_trichotomy n (nearestUp q) with less | rfl | greater
  · have apart : (n : Rat) + 1 ≤ nearestUp q := by exact_mod_cast less
    have far := le_abs_self (q - n)
    exact ⟨by linarith, fun _ => by linarith⟩
  · exact ⟨le_refl _, fun _ => le_refl _⟩
  · have apart : (nearestUp q : Rat) + 1 ≤ n := by exact_mod_cast greater
    have far := neg_abs_le (q - n)
    refine ⟨by linarith, fun same => ?_⟩
    rw [same] at far
    linarith

theorem Preferred.scale {r s unit : Rat} (preferred : Preferred (q / unit) r s) (positive : 0 < unit) :
    Preferred q (r * unit) (s * unit) := by
  obtain ⟨nearer, greater⟩ := preferred
  have apart (t : Rat) : |q - t * unit| = |q / unit - t| * unit := by
    rw [← abs_of_pos positive, ← abs_mul, abs_of_pos positive, sub_mul, div_mul_cancel₀ _ positive.ne']
  unfold Preferred
  rw [apart, apart]
  refine ⟨mul_le_mul_of_nonneg_right nearer positive.le, fun same => ?_⟩
  exact mul_le_mul_of_nonneg_right (greater (mul_right_cancel₀ positive.ne' same)) positive.le

/-- What is preferred to a number below is preferred to all that are smaller. -/
theorem Preferred.of_below {r p s : Rat} (preferred : Preferred q r p) (low : p ≤ q) (below : s < p) :
    Preferred q r s := by
  obtain ⟨nearer, -⟩ := preferred
  rw [abs_of_nonneg (sub_nonneg.mpr low)] at nearer
  have farther : q - s ≤ |q - s| := le_abs_self _
  refine ⟨by linarith, fun same => ?_⟩
  rw [same] at farther
  linarith

/-! ## Significant digits -/

variable {places digits : Nat} {e : Int}

theorem ten_pow_mul {a : Nat} {b c : Int} (sum : (a : Int) + b = c) :
    (10 : Rat) ^ a * (10 : Rat) ^ b = (10 : Rat) ^ c := by
  rw [← zpow_natCast, ← zpow_add₀ (by norm_num), sum]

/-- A number by the last place of its digits. -/
theorem quotient_digits (positive : 0 < q) (places : Nat) :
    (10 : Rat) ^ places ≤ q / (10 : Rat) ^ (floorLog10 q - places) ∧
      q / (10 : Rat) ^ (floorLog10 q - places) < (10 : Rat) ^ (places + 1) := by
  obtain ⟨low, high⟩ := floorLog10_spec positive
  have unit : (0 : Rat) < (10 : Rat) ^ (floorLog10 q - places) := by positivity
  have first : (places : Int) + (floorLog10 q - places) = floorLog10 q := by omega
  have next : ((places + 1 : Nat) : Int) + (floorLog10 q - places) = floorLog10 q + 1 := by omega
  rw [le_div_iff₀ unit, div_lt_iff₀ unit, ten_pow_mul first, ten_pow_mul next]
  exact ⟨low, high⟩

/-- Where the digits carry, a tenth of the quotient is rounded to the power of
    ten that they carry to. -/
theorem nearestUp_tenth {y : Rat} (carried : (10 : Rat) ^ (places + 1) - 1 / 2 ≤ y)
    (high : y < (10 : Rat) ^ (places + 1)) : nearestUp (y / 10) = (10 ^ places : Nat) := by
  rw [pow_succ] at carried high
  apply nearestUp_eq
  · push_cast
    linarith
  · push_cast
    linarith

/-- Rounded digits are full, they stand for the rounded quotient, and they are
    what the quotient by their own last place is rounded to. -/
theorem significant_spec (positive : 0 < q) (rounded : significant (places + 1) q = (digits, e)) :
    (10 ^ places ≤ digits ∧ digits < 10 ^ (places + 1)) ∧
      digits * (10 : Rat) ^ (e - places) =
        nearestUp (q / (10 : Rat) ^ (floorLog10 q - places)) * (10 : Rat) ^ (floorLog10 q - places) ∧
      nearestUp (q / (10 : Rat) ^ (e - places)) = digits := by
  obtain ⟨low, high⟩ := quotient_digits positive places
  obtain ⟨below, above⟩ := nearestUp_bounds (q / (10 : Rat) ^ (floorLog10 q - places))
  have count : ((places + 1 : Nat) : Int) - 1 = places := by omega
  have power : Nat.pow 10 (places + 1) = 10 ^ (places + 1) := rfl
  rw [significant, count] at rounded
  generalize quotient : q / (10 : Rat) ^ (floorLog10 q - places) = y at *
  have least : ((10 ^ places : Nat) : Int) < nearestUp y + 1 := by
    rw [← Int.cast_lt (R := Rat)]
    push_cast
    linarith
  have most : nearestUp y < ((10 ^ (places + 1) : Nat) : Int) + 1 := by
    rw [← Int.cast_lt (R := Rat)]
    push_cast
    linarith
  by_cases carries : (nearestUp y).toNat = Nat.pow 10 (places + 1)
  -- The last place of the digits after the carry is ten times as large.
  · simp only [if_pos carries, Prod.mk.injEq] at rounded
    obtain ⟨rfl, rfl⟩ := rounded
    have whole : nearestUp y = (10 ^ (places + 1) : Nat) := by omega
    have place : floorLog10 q + 1 - (places : Int) = floorLog10 q - places + 1 := by omega
    have first : Nat.pow 10 places = 10 ^ places := rfl
    rw [whole] at below ⊢
    rw [Nat.add_sub_cancel, first, place, zpow_add_one₀ (by norm_num), ← div_div, quotient]
    push_cast at below
    refine ⟨⟨le_refl _, Nat.pow_lt_pow_right (by decide) (Nat.lt_succ_self _)⟩, ?_, nearestUp_tenth below high⟩
    push_cast
    ring
  · simp only [if_neg carries, Prod.mk.injEq] at rounded
    obtain ⟨rfl, rfl⟩ := rounded
    have integer : ((nearestUp y).toNat : Int) = nearestUp y := Int.toNat_of_nonneg (by omega)
    have cast : ((nearestUp y).toNat : Rat) = nearestUp y := by exact_mod_cast integer
    refine ⟨⟨by omega, by omega⟩, by rw [cast], ?_⟩
    rw [quotient, integer]

/-- A number with so many digits is a multiple of a place, or it is smaller than
    the first of so many digits down to the place. -/
theorem hasDigits_cases {s : Rat} (hasDigits : HasDigits (places + 1) s) (place : Int) :
    (∃ m : Int, s = m * (10 : Rat) ^ place) ∨ s < (10 : Rat) ^ (places + place) := by
  obtain ⟨n, k, narrow, rfl⟩ := hasDigits
  by_cases within : place ≤ k
  · left
    have split : ((k - place).toNat : Int) + place = k := by omega
    refine ⟨(n * 10 ^ (k - place).toNat : Nat), ?_⟩
    rw [← ten_pow_mul split]
    push_cast
    ring
  · right
    have narrow' : (n : Rat) < (10 : Rat) ^ (places + 1) := by exact_mod_cast narrow
    calc n * (10 : Rat) ^ k < (10 : Rat) ^ (places + 1) * (10 : Rat) ^ k :=
          mul_lt_mul_of_pos_right narrow' (by positivity)
      _ = (10 : Rat) ^ (((places + 1 : Nat) : Int) + k) := ten_pow_mul rfl
      _ ≤ (10 : Rat) ^ (places + place) := zpow_le_zpow_right₀ (by norm_num) (by omega)

/-- What rounding gives is preferred to all numbers with so many digits. -/
theorem roundsTo_significant (positive : 0 < q) (rounded : significant (places + 1) q = (digits, e)) :
    RoundsTo (places + 1) q (digits * (10 : Rat) ^ (e - places)) := by
  obtain ⟨⟨-, bounded⟩, value, -⟩ := significant_spec positive rounded
  obtain ⟨low, -⟩ := floorLog10_spec positive
  have unit : (0 : Rat) < (10 : Rat) ^ (floorLog10 q - places) := by positivity
  have multiple (m : Int) :
      Preferred q (digits * (10 : Rat) ^ (e - places)) (m * (10 : Rat) ^ (floorLog10 q - places)) := by
    rw [value]
    exact (preferred_nearestUp _ m).scale unit
  refine ⟨⟨digits, e - places, bounded, rfl⟩, fun s hasDigits => ?_⟩
  rcases hasDigits_cases hasDigits (floorLog10 q - places) with ⟨m, rfl⟩ | smaller
  · exact multiple m
  -- The first digit of the number alone is preferred to all that is smaller.
  · have sum : (places : Int) + (floorLog10 q - places) = floorLog10 q := by omega
    have first := multiple (10 ^ places : Nat)
    push_cast at first
    rw [ten_pow_mul sum] at first
    rw [sum] at smaller
    exact first.of_below low smaller

/-- Rounding to digits is off by at most half of the last one. -/
theorem significant_error (positive : 0 < q) (rounded : significant (places + 1) q = (digits, e)) :
    |digits * (10 : Rat) ^ (e - places) - q| * (2 * 10 ^ places) ≤ q := by
  obtain ⟨-, value, -⟩ := significant_spec positive rounded
  have half := nearestUp_error (q / (10 : Rat) ^ (floorLog10 q - places))
  have unit : (0 : Rat) < (10 : Rat) ^ (floorLog10 q - places) := by positivity
  have full := (quotient_digits positive places).1
  rw [value]
  generalize (10 : Rat) ^ (floorLog10 q - places) = u at *
  have split : q = q / u * u := (div_mul_cancel₀ q unit.ne').symm
  generalize q / u = y at *
  rw [split, ← sub_mul, abs_mul, abs_of_pos unit, mul_right_comm]
  refine mul_le_mul_of_nonneg_right ?_ unit.le
  calc |nearestUp y - y| * (2 * 10 ^ places) ≤ 1 / 2 * (2 * 10 ^ places) :=
        mul_le_mul_of_nonneg_right half (by positivity)
    _ = 10 ^ places := by ring
    _ ≤ y := full

/-- The exponent is that of the first of the rounded digits. -/
theorem exponent_significant (positive : 0 < q) (rounded : significant (places + 1) q = (digits, e)) :
    (10 : Rat) ^ e ≤ digits * (10 : Rat) ^ (e - places) ∧
      digits * (10 : Rat) ^ (e - places) < (10 : Rat) ^ (e + 1) := by
  obtain ⟨⟨low, high⟩, -⟩ := significant_spec positive rounded
  have unit : (0 : Rat) < (10 : Rat) ^ (e - places) := by positivity
  have low' : (10 : Rat) ^ places ≤ digits := by exact_mod_cast low
  have high' : (digits : Rat) < (10 : Rat) ^ (places + 1) := by exact_mod_cast high
  have first : (places : Int) + (e - places) = e := by omega
  have next : ((places + 1 : Nat) : Int) + (e - places) = e + 1 := by omega
  rw [← ten_pow_mul first, ← ten_pow_mul next]
  exact ⟨mul_le_mul_of_nonneg_right low' unit.le, mul_lt_mul_of_pos_right high' unit⟩

/-- The positional text is rounded to the same digits. -/
theorem nearestUp_again (positive : 0 < q) (rounded : significant (places + 1) q = (digits, e))
    (positional : e ≤ places) : (nearestUp (q * (10 : Rat) ^ ((places - e).toNat : Int))).toNat = digits := by
  obtain ⟨-, -, again⟩ := significant_spec positive rounded
  have kept : ((places - e).toNat : Int) = -(e - places) := by omega
  rw [kept, zpow_neg, ← div_eq_mul_inv, again, Int.toNat_natCast]

/-! ## The form of a text -/

/-- The form of a number with a decimal exponent: positional, or with one digit
    before the point and an exponent of at least two digits. -/
inductive GeneralForm (count : Nat) (e : Int) : List Char → Prop
  | positional {whole fraction : List Char} (inRange : -4 ≤ e ∧ e < count) (digits : Digits whole)
      (trimmed : Trimmed fraction) : GeneralForm count e (whole ++ fraction)
  | scientific {first : Char} {fraction ds : List Char} (outside : e < -4 ∨ count ≤ e) (digit : isDigit first = true)
      (trimmed : Trimmed fraction) (digits : Digits ds) (wide : 2 ≤ ds.length)
      (spelled : numeralValue ds = e.natAbs) :
      GeneralForm count e (first :: (fraction ++ 'e' :: (if e < 0 then '-' else '+') :: ds))

theorem length_numeralChars_le {n : Nat} (bounded : n < 10 ^ (places + 1)) :
    (numeralChars n).length ≤ places + 1 := by
  rcases Nat.eq_zero_or_pos n with rfl | positive
  · simp [numeralChars]
  · have low := pow_length_numeralChars_le positive
    have lengths := (Nat.pow_lt_pow_iff_right (by decide : 1 < 10)).mp (low.trans_lt bounded)
    omega

/-- A number with places has one digit before the point when it is below the
    power of ten after them. -/
theorem scientific_form {count : Nat} (narrow : digits < 10 ^ (places + 1)) (outside : e < -4 ∨ count ≤ e) :
    ∃ ds n, Significand (trimFraction (fixedChars digits places)) ds n ∧
      numeralValue ds * (10 : Rat) ^ (e - n) = digits * (10 : Rat) ^ (e - places) ∧
      GeneralForm count e (trimFraction (fixedChars digits places) ++ exponentChars e) := by
  obtain ⟨whole, fraction, ds, n, trimmed, wholeDigits, isTrimmed, significand, value, length⟩ :=
    trimFraction_fixedChars digits places
  have one : whole.length = 1 := by
    have most := length_numeralChars_le narrow
    omega
  obtain ⟨first, rfl⟩ := List.length_eq_one_iff.mp one
  rw [trimmed]
  refine ⟨ds, n, significand, ?_, ?_⟩
  · rw [sub_eq_add_neg, sub_eq_add_neg, zpow_add₀ (by norm_num), zpow_add₀ (by norm_num), mul_left_comm, value,
      mul_left_comm]
  · have digits : Digits (padDigits 2 e.natAbs) := ⟨padDigits_ne_nil _ _, padDigits_digits _ _⟩
    have wide : 2 ≤ (padDigits 2 e.natAbs).length := by
      rw [length_padDigits]
      exact le_max_left _ _
    rw [List.append_assoc]
    exact GeneralForm.scientific outside (wholeDigits.2 first (by simp)) isTrimmed digits wide
      (numeralValue_padDigits 2 e.natAbs)

/-- A positional text with places for the digits down to the last stands for
    them. -/
theorem positional_form {count : Nat} (digits : Nat) (inRange : -4 ≤ e ∧ e < count) (within : e ≤ places) :
    ∃ ds n, Significand (trimFraction (fixedChars digits (places - e).toNat)) ds n ∧
      numeralValue ds * (10 : Rat) ^ (0 - n : Int) = digits * (10 : Rat) ^ (e - places) ∧
      GeneralForm count e (trimFraction (fixedChars digits (places - e).toNat)) := by
  obtain ⟨whole, fraction, ds, n, trimmed, wholeDigits, isTrimmed, significand, value, -⟩ :=
    trimFraction_fixedChars digits (places - e).toNat
  rw [trimmed]
  refine ⟨ds, n, significand, ?_, .positional inRange wholeDigits isTrimmed⟩
  rw [zero_sub, value]
  congr 2
  omega

end CqlTable.Number

namespace CqlTable.Double

open Number Text

variable {negative : Bool} {mantissa : Nat} {exponent : Int} {fits : double.Fits mantissa exponent}
  {places digits : Nat} {e : Int}

/-- The text of a number with a count of significant digits stands for these
    digits, whichever form it has. -/
theorem generalText_spells (counted : places + 1 ≤ 21) (nonzero : mantissa ≠ 0)
    (rounded : significant (places + 1) (scaled mantissa exponent) = (digits, e)) :
    SpellsDecimal ((finite negative mantissa exponent fits).generalText (places + 1)) negative
        (digits * (10 : Rat) ^ (e - places)) ∧
      ∃ cs, ((finite negative mantissa exponent fits).generalText (places + 1)).toList =
        (if negative then ['-'] else []) ++ cs ∧ GeneralForm (places + 1) e cs := by
  have positive : 0 < scaled mantissa exponent := scaled_pos (Nat.pos_of_ne_zero nonzero) exponent
  have text : ((finite negative mantissa exponent fits).generalText (places + 1)).toList = _ :=
    toList_generalText counted nonzero rounded
  have lessOne : ((places + 1 : Nat) : Int) - 1 = places := by omega
  rw [Nat.add_sub_cancel, lessOne] at text
  by_cases outside : e < -4 ∨ ((places + 1 : Nat) : Int) ≤ e
  · obtain ⟨⟨-, narrow⟩, -⟩ := significant_spec positive rounded
    obtain ⟨ds, n, isSignificand, value, form⟩ := scientific_form narrow outside
    rw [if_pos outside] at text
    exact ⟨⟨[], _, _, _, [], ds, n, e, by simp, by simp, sign_minus negative, isSignificand,
      exponent_exponentChars e, by simpa using text, value.symm⟩, _, text, form⟩
  · have inRange : -4 ≤ e ∧ e < (places + 1 : Nat) := by omega
    have within : e ≤ places := by omega
    obtain ⟨ds, n, isSignificand, value, form⟩ := positional_form digits inRange within
    rw [if_neg outside, nearestUp_again positive rounded within] at text
    exact ⟨⟨[], _, _, [], [], ds, n, 0, by simp, by simp, sign_minus negative, isSignificand,
      .absent, by simpa using text, value.symm⟩, _, text, form⟩

/-- The text of any finite number, zero among them, spells one that is off by at
    most half of its last digit. -/
theorem generalText_near (counted : places + 1 ≤ 21) {d : Double} (isFinite : d.isFinite = true) :
    ∃ r : Rat, SpellsDecimal (d.generalText (places + 1)) d.isNegative r ∧
      |r - (|d.value|)| * (2 * 10 ^ places) ≤ |d.value| := by
  obtain ⟨negative, mantissa, exponent, fits, rfl⟩ := exists_finite isFinite
  rw [abs_value]
  by_cases zero : mantissa = 0
  · have digits : Digits ['0'] := by decide
    refine ⟨0, ⟨[], _, ['0'], [], [], ['0'], 0, 0, by simp, by simp, sign_minus negative, .whole digits, .absent,
      ?_, ?_⟩, ?_⟩
    · simp [generalText, zero]
    · simp [numeralValue, digitValue]
    · simp [zero, scaled]
  · obtain ⟨digits, e, rounded⟩ : ∃ digits e, significant (places + 1) (scaled mantissa exponent) = (digits, e) :=
      ⟨_, _, rfl⟩
    exact ⟨_, (generalText_spells counted zero rounded).1,
      significant_error (scaled_pos (Nat.pos_of_ne_zero zero) exponent) rounded⟩

/-- The text of a number with a count of significant digits spells what it is
    rounded to, the half away from zero. It is positional when the exponent of
    the first of these digits is from -4 up to below their count, and otherwise
    has that exponent. -/
theorem generalText_rounds {count : Nat} {d : Double} (counted : 1 ≤ count ∧ count ≤ 21) (isFinite : d.isFinite = true)
    (nonzero : d.value ≠ 0) :
    ∃ (r : Rat) (e : Int), RoundsTo count |d.value| r ∧ ((10 : Rat) ^ e ≤ r ∧ r < (10 : Rat) ^ (e + 1)) ∧
      SpellsDecimal (d.generalText count) (decide (d.value < 0)) r ∧
      ∃ cs, (d.generalText count).toList = (if d.value < 0 then ['-'] else []) ++ cs ∧ GeneralForm count e cs := by
  obtain ⟨places, rfl⟩ : ∃ places, count = places + 1 := ⟨count - 1, by omega⟩
  obtain ⟨negative, mantissa, exponent, fits, rfl⟩ := exists_finite isFinite
  have some : mantissa ≠ 0 := by
    rintro rfl
    exact nonzero (by cases negative <;> simp [value, scaled])
  have positive : 0 < scaled mantissa exponent := scaled_pos (Nat.pos_of_ne_zero some) exponent
  obtain ⟨digits, e, rounded⟩ : ∃ digits e, significant (places + 1) (scaled mantissa exponent) = (digits, e) :=
    ⟨_, _, rfl⟩
  have rounds := roundsTo_significant positive rounded
  rw [← abs_value fits] at rounds
  simp only [value_lt_zero_iff some, Bool.decide_eq_true]
  exact ⟨_, e, rounds, exponent_significant positive rounded, generalText_spells counted.2 some rounded⟩

/-- A half that carries into the next power of ten. -/
theorem half_carried :
    let d := ofRat (-19 / 2)
    (1 ≤ 1 ∧ 1 ≤ 21) ∧ d.isFinite = true ∧ d.value = -19 / 2 ∧ d.generalText 1 = "-1e+01" ∧
      ∃ (r : Rat) (e : Int), RoundsTo 1 (19 / 2) r ∧ ((10 : Rat) ^ e ≤ r ∧ r < (10 : Rat) ^ (e + 1)) ∧
        SpellsDecimal "-1e+01" true r ∧ ∃ cs, "-1e+01".toList = ['-'] ++ cs ∧ GeneralForm 1 e cs := by
  intro d
  have isFinite : d.isFinite = true := by decide +kernel
  have value : d.value = -19 / 2 := by decide +kernel
  have text : d.generalText 1 = "-1e+01" := by decide +kernel
  refine ⟨by decide, isFinite, value, text, ?_⟩
  have rounds := generalText_rounds (show 1 ≤ 1 ∧ 1 ≤ 21 from by decide) isFinite (by rw [value]; norm_num)
  have negative : (-19 / 2 : Rat) < 0 := by norm_num
  have magnitude : |(-19 / 2 : Rat)| = 19 / 2 := by norm_num
  simpa only [text, value, negative, magnitude, decide_true, if_true] using rounds

end CqlTable.Double
