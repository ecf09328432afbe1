import CqlTable.Proofs.Number.Integers
import CqlTable.Proofs.Text.Numerals

/-!
# Shortest numerals: what is written is read again

A rational that is near enough to a value of a format is rounded to it
(`nearest_of_near`). Of the numerals of seventeen digits around a double one is
that near, so the search for a shortest numeral ends with one that reads back
(`nearest_shortest`). The numeral of an integer has no fraction, and it is
written as an integer whose double is the same (`exists_integer_text`).
-/

namespace CqlTable.Number

/-! ## Exponents of ten -/

theorem log10_spec {n : Nat} (positive : 0 < n) : 10 ^ log10 n ≤ n ∧ n < 10 ^ (log10 n + 1) := by
  induction n using log10.induct with
  | case1 n small =>
    rw [log10, if_pos small]
    omega
  | case2 n large ih =>
    obtain ⟨low, high⟩ := ih (by omega)
    rw [log10, if_neg large, Nat.pow_succ, Nat.pow_succ]
    rw [Nat.pow_succ] at high
    omega

theorem floorLog10_spec {q : Rat} (positive : 0 < q) :
    (10 : Rat) ^ floorLog10 q ≤ q ∧ q < (10 : Rat) ^ (floorLog10 q + 1) := by
  have numerator : 0 < q.num.natAbs := by
    have := Rat.num_pos.mpr positive
    omega
  obtain ⟨lowNum, highNum⟩ := log10_spec numerator
  obtain ⟨lowDen, highDen⟩ := log10_spec q.den_pos
  have bounds := quotient_bounds (by decide) lowNum highNum lowDen highDen
  rw [← rat_eq_natAbs_div positive] at bounds
  exact floorLogFrom_spec bounds.1 bounds.2

/-! ## Rationals near a value of a format -/

theorem nearestEven_of_near {q : Rat} {n : Int} (near : |q - n| < 1 / 2) : nearestEven q = n := by
  have error := abs_le.mp (nearestEven_error q)
  have near := abs_lt.mp near
  have low : (n : Rat) - 1 < nearestEven q := by linarith [error.1, near.1]
  have high : (nearestEven q : Rat) < n + 1 := by linarith [error.2, near.2]
  have low : n - 1 < nearestEven q := by exact_mod_cast low
  have high : nearestEven q < n + 1 := by exact_mod_cast high
  omega

theorem nearest_of_lastPlace {f : Format} {q : Rat} {n : Nat} (positive : 0 < q)
    (near : |q / (2 : Rat) ^ f.lastPlace q - n| < 1 / 2) :
    f.nearest q = if n = Nat.pow 2 f.precision then (Nat.pow 2 (f.precision - 1), f.lastPlace q + 1)
      else (n, f.lastPlace q) := by
  have rounded : nearestEven (q / (2 : Rat) ^ f.lastPlace q) = n :=
    nearestEven_of_near (by exact_mod_cast near)
  simp only [Format.nearest, if_neg positive.ne', rounded, Int.toNat_natCast]

/-- The significand below a power of two that a nearby smaller rational comes
    from is the least full one. -/
theorem mantissa_of_below {half mantissa : Nat} {q unit : Rat} (some : 0 < half) (full : half ≤ mantissa)
    (positive : 0 < unit) (near : (mantissa * unit - q) * (4 * half) < mantissa * unit) (below : q < half * unit) :
    mantissa = half := by
  refine le_antisymm (Nat.le_of_not_lt fun large => ?_) full
  have large' : (half : Rat) + 1 ≤ mantissa := by exact_mod_cast large
  have some' : (1 : Rat) ≤ half := by exact_mod_cast some
  have bound : mantissa * unit * (4 * half - 1) < half * unit * (4 * half) := by nlinarith
  have scaled : (half + 1) * unit * (4 * half - 1) ≤ mantissa * unit * (4 * half - 1) := by
    have nonneg : (0 : Rat) ≤ 4 * half - 1 := by linarith
    gcongr
  nlinarith

/-- A rational is rounded to a value of the format that it is near to. The
    distance allowed is a quarter of the last place next to a power of two, where
    the values below lie half as far apart, and more elsewhere. -/
theorem nearest_of_near {f : Format} {mantissa : Nat} {exponent : Int} (fits : f.Fits mantissa exponent)
    (digits : 0 < f.precision) {q : Rat}
    (near : |q - scaled mantissa exponent| * (4 * Nat.pow 2 (f.precision - 1) : Nat) < scaled mantissa exponent) :
    f.nearest q = (mantissa, exponent) := by
  obtain ⟨narrow, least, greatest, form⟩ := fits
  have width : f.precision - 1 + 1 = f.precision := Nat.sub_add_cancel digits
  have twice : Nat.pow 2 f.precision = 2 * Nat.pow 2 (f.precision - 1) := by
    rw [← width]
    exact Nat.pow_succ'
  have half : 0 < Nat.pow 2 (f.precision - 1) := Nat.pow_pos (by decide)
  rw [twice] at narrow
  have halfPower : (2 : Rat) ^ ((f.precision - 1 : Nat) : Int) = (Nat.pow 2 (f.precision - 1) : Nat) := by
    rw [zpow_natCast]
    exact (Nat.cast_pow 2 _).symm
  have unit : (0 : Rat) < 2 ^ exponent := by positivity
  have placePower (e : Int) : (2 : Rat) ^ (((f.precision - 1 : Nat) : Int) + e) =
      (Nat.pow 2 (f.precision - 1) : Nat) * 2 ^ e := by
    rw [zpow_add₀ two_ne_zero, halfPower]
  generalize same : Nat.pow 2 (f.precision - 1) = h at *
  have half' : (1 : Rat) ≤ h := by exact_mod_cast half
  have narrow' : (mantissa : Rat) + 1 ≤ 2 * h := by exact_mod_cast narrow
  push_cast at near
  rw [scaled] at near
  generalize unitIs : (2 : Rat) ^ exponent = u at *
  have inHalf : |q - mantissa * u| * 2 < u := by nlinarith [abs_nonneg (q - mantissa * u)]
  obtain ⟨apart, apart'⟩ := abs_le.mp (le_refl |q - mantissa * u|)
  have positive : 0 < q := by nlinarith [abs_nonneg (q - mantissa * u)]
  obtain ⟨lowLog, highLog⟩ := floorLog2_spec positive
  have log : floorLog2 q < ((f.precision - 1 : Nat) : Int) + (exponent + 1) := by
    have high : q < (2 : Rat) ^ (((f.precision - 1 : Nat) : Int) + (exponent + 1)) := by
      rw [placePower, zpow_add_one₀ two_ne_zero, unitIs]
      nlinarith
    exact (zpow_lt_zpow_iff_right₀ one_lt_two).mp (lowLog.trans_lt high)
  by_cases low : h * u ≤ q ∨ exponent = f.minExponent
  · have place : f.lastPlace q = exponent := by
      unfold Format.lastPlace
      rcases low with low | isLeast
      · have exact : ((f.precision - 1 : Nat) : Int) + exponent < floorLog2 q + 1 := by
          rw [← unitIs, ← placePower] at low
          exact (zpow_lt_zpow_iff_right₀ one_lt_two).mp (low.trans_lt highLog)
        omega
      · omega
    have close : |q / (2 : Rat) ^ f.lastPlace q - mantissa| < 1 / 2 := by
      rw [place, unitIs, div_sub' unit.ne', abs_div, abs_of_pos unit, div_lt_iff₀ unit, mul_comm u]
      linarith
    rw [nearest_of_lastPlace positive close, place, if_neg (by rw [twice]; exact narrow.ne)]
  · obtain ⟨low, notLeast⟩ := not_or.mp low
    have full := form.resolve_right notLeast
    have nearBelow : (mantissa * u - q) * (4 * h) < mantissa * u :=
      (mul_le_mul_of_nonneg_right (by linarith) (by positivity)).trans_lt near
    have isHalf : mantissa = h := mantissa_of_below half full unit nearBelow (not_le.mp low)
    subst isHalf
    have place : f.lastPlace q = exponent - 1 := by
      have exact : ((f.precision - 1 : Nat) : Int) + (exponent - 1) < floorLog2 q + 1 := by
        have low : (2 : Rat) ^ (((f.precision - 1 : Nat) : Int) + (exponent - 1)) ≤ q := by
          rw [placePower, zpow_sub_one₀ two_ne_zero, unitIs]
          nlinarith
        exact (zpow_lt_zpow_iff_right₀ one_lt_two).mp (low.trans_lt highLog)
      have above : floorLog2 q < ((f.precision - 1 : Nat) : Int) + exponent := by
        have high : q < (2 : Rat) ^ (((f.precision - 1 : Nat) : Int) + exponent) := by
          rw [placePower, unitIs]
          exact not_le.mp low
        exact (zpow_lt_zpow_iff_right₀ one_lt_two).mp (lowLog.trans_lt high)
      unfold Format.lastPlace
      omega
    have close : |q / (2 : Rat) ^ f.lastPlace q - (2 * mantissa : Nat)| < 1 / 2 := by
      rw [place, zpow_sub_one₀ two_ne_zero, unitIs]
      have quotient : q / (u * 2⁻¹) - ((2 * mantissa : Nat) : Rat) = (q - mantissa * u) * 2 / u := by
        push_cast
        field_simp
      rw [quotient, abs_div, abs_mul, abs_of_pos unit, abs_of_pos (show (0 : Rat) < 2 by norm_num), div_lt_iff₀ unit]
      nlinarith
    rw [nearest_of_lastPlace positive close, place, if_pos twice.symm, same, sub_add_cancel]

/-! ## Numerals that read back -/

theorem nearer_cases (q : Rat) (a b : Numeral) : nearer q a b = a ∨ nearer q a b = b := by
  unfold nearer
  extract_lets toA toB
  split
  · exact .inl rfl
  · split
    · exact .inr rfl
    · split
      · exact .inl rfl
      · exact .inr rfl

theorem readingBack_mem {q : Rat} {pair : Nat × Int} {count : Nat} {n : Numeral}
    (found : readingBack? q pair count = some n) : n ∈ neighbours q count ∧ double.nearest n.value = pair := by
  have chosen : n ∈ (neighbours q count).filter fun n => double.nearest n.value == pair := by
    unfold readingBack? at found
    split at found
    · rename_i a b both
      rw [both]
      cases found
      rcases nearer_cases q a b with same | same
      · simp [same]
      · simp [same]
    · rename_i a one
      rw [one]
      cases found
      simp
    · cases found
  simpa using chosen

theorem exists_readingBack {q : Rat} {pair : Nat × Int} {count : Nat} {n : Numeral} (inside : n ∈ neighbours q count)
    (back : double.nearest n.value = pair) : ∃ best, readingBack? q pair count = some best := by
  have kept : n ∈ (neighbours q count).filter fun n => double.nearest n.value == pair := by
    simp [inside, back]
  have two : ((neighbours q count).filter fun n => double.nearest n.value == pair).length ≤ 2 :=
    List.length_filter_le _ _
  unfold readingBack?
  generalize (neighbours q count).filter (fun n => double.nearest n.value == pair) = chosen at kept two
  match chosen, kept, two with
  | [a], _, _ => exact ⟨a, rfl⟩
  | [a, b], _, _ => exact ⟨nearer q a b, rfl⟩

theorem value_strip (room : Nat) (n : Numeral) :
    (n.strip room).value = n.value ∧ n.exponent ≤ (n.strip room).exponent := by
  induction room generalizing n with
  | zero => exact ⟨rfl, le_refl _⟩
  | succ room ih =>
    rw [Numeral.strip]
    split
    · rename_i zeroLast
      obtain ⟨value, exponent⟩ := ih ⟨n.digits / 10, n.exponent + 1⟩
      have digits : n.digits = n.digits / 10 * 10 := by omega
      have digits' : (n.digits : Rat) = (n.digits / 10 : Nat) * 10 := by exact_mod_cast digits
      refine ⟨?_, by simp only [] at exponent; omega⟩
      rw [value, Numeral.value, Numeral.value, zpow_add_one₀ (by norm_num), digits']
      ring
    · exact ⟨rfl, le_refl _⟩

/-- A positive rational lies between its neighbours, which are a unit apart. -/
theorem neighbours_around {q : Rat} (positive : 0 < q) (count : Nat) :
    ∃ digits : Nat, neighbours q count =
        [⟨digits, floorLog10 q - (count - 1)⟩, ⟨digits + 1, floorLog10 q - (count - 1)⟩] ∧
      digits * (10 : Rat) ^ (floorLog10 q - (count - 1)) ≤ q ∧
      q < (digits + 1) * (10 : Rat) ^ (floorLog10 q - (count - 1)) := by
  have unit : (0 : Rat) < 10 ^ (floorLog10 q - (count - 1)) := by positivity
  have nonneg : 0 ≤ (q / (10 : Rat) ^ (floorLog10 q - (count - 1))).floor :=
    Int.floor_nonneg (a := q / (10 : Rat) ^ (floorLog10 q - (count - 1))).mpr (by positivity)
  have cast : ((q / (10 : Rat) ^ (floorLog10 q - (count - 1))).floor.toNat : Rat) =
      (q / (10 : Rat) ^ (floorLog10 q - (count - 1))).floor := by
    exact_mod_cast Int.toNat_of_nonneg nonneg
  refine ⟨_, rfl, ?_, ?_⟩
  · rw [cast, ← le_div_iff₀ unit]
    exact Int.floor_le _
  · rw [cast, ← div_lt_iff₀ unit]
    exact Int.lt_floor_add_one _

/-- A neighbour is not smaller than its last place, and at most twice as large
    as the rational. -/
theorem neighbour_bounds {q : Rat} (positive : 0 < q) {count : Nat} {n : Numeral}
    (inside : n ∈ neighbours q (count + 1)) :
    n.exponent = floorLog10 q - count ∧ (10 : Rat) ^ n.exponent ≤ n.value ∧ n.value ≤ 2 * q := by
  obtain ⟨digits, around, below, beyond⟩ := neighbours_around positive (count + 1)
  obtain ⟨log, -⟩ := floorLog10_spec positive
  have places : floorLog10 q - ((count + 1 : Nat) - 1) = floorLog10 q - count := by omega
  rw [places] at around below beyond
  have step : (10 : Rat) ^ (floorLog10 q - count) ≤ q := (zpow_le_zpow_right₀ (by norm_num) (by omega)).trans log
  have unit : (0 : Rat) < 10 ^ (floorLog10 q - count) := by positivity
  have some : 1 ≤ digits := by
    have : (0 : Rat) < digits := by nlinarith
    exact_mod_cast this
  have some : (1 : Rat) ≤ digits := by exact_mod_cast some
  rw [around] at inside
  rcases List.mem_pair.mp inside with rfl | rfl
  · simp only [Numeral.value]
    exact ⟨trivial, by nlinarith, by linarith⟩
  · simp only [Numeral.value]
    push_cast
    exact ⟨trivial, by nlinarith, by linarith⟩

/-- One of the numerals of seventeen digits around a double reads back. -/
theorem exists_seventeen {mantissa : Nat} {exponent : Int} (fits : double.Fits mantissa exponent)
    (positive : 0 < mantissa) :
    ∃ n ∈ neighbours (scaled mantissa exponent) 17, double.nearest n.value = (mantissa, exponent) := by
  have above := scaled_pos positive exponent
  obtain ⟨digits, around, low, high⟩ := neighbours_around above 17
  obtain ⟨log, -⟩ := floorLog10_spec above
  have back {n : Numeral} (near : |n.value - scaled mantissa exponent| * 18014398509481984 < scaled mantissa exponent) :
      double.nearest n.value = (mantissa, exponent) :=
    nearest_of_near fits Double.double_digits (by simpa [double] using near)
  have unit : (0 : Rat) < 10 ^ (floorLog10 (scaled mantissa exponent) - 16) := by positivity
  have scale : (10 : Rat) ^ (floorLog10 (scaled mantissa exponent) - 16) * 10 ^ 16 ≤ scaled mantissa exponent := by
    rw [← zpow_natCast, ← zpow_add₀ (by norm_num)]
    simpa using log
  rw [around]
  generalize scaled mantissa exponent = q at *
  have places : floorLog10 q - ((17 : Nat) - 1 : Int) = floorLog10 q - 16 := by norm_num
  rw [places] at low high ⊢
  generalize stepIs : (10 : Rat) ^ (floorLog10 q - 16) = step at *
  by_cases half : (q - digits * step) * 2 ≤ step
  · refine ⟨⟨digits, floorLog10 q - 16⟩, by simp, back ?_⟩
    rw [Numeral.value, stepIs, abs_of_nonpos (by linarith)]
    linarith
  · refine ⟨⟨digits + 1, floorLog10 q - 16⟩, by simp, back ?_⟩
    rw [Numeral.value, stepIs]
    push_cast
    rw [abs_of_nonneg (by linarith)]
    linarith

/-! ## Shortest numerals -/

/-- The shortest numeral is a neighbour with the first count of digits for which
    one reads back, but for zeros at its end. -/
theorem exists_shortest {mantissa : Nat} {exponent : Int} (fits : double.Fits mantissa exponent)
    (positive : 0 < mantissa) :
    ∃ count < 17, ∃ n, shortest mantissa exponent = n.strip 18 ∧
      n ∈ neighbours (scaled mantissa exponent) (count + 1) ∧ double.nearest n.value = (mantissa, exponent) ∧
      ∀ fewer < count, ∀ other ∈ neighbours (scaled mantissa exponent) (fewer + 1),
        double.nearest other.value ≠ (mantissa, exponent) := by
  obtain ⟨wide, wideInside, wideBack⟩ := exists_seventeen fits positive
  obtain ⟨best, bestFound⟩ := exists_readingBack wideInside wideBack
  let search (k : Nat) := readingBack? (scaled mantissa exponent) (mantissa, exponent) (k + 1)
  have found : ((List.range 17).findSome? search).isSome = true :=
    List.findSome?_isSome_iff.mpr ⟨16, by decide, by simp [search, bestFound]⟩
  obtain ⟨n, first⟩ := Option.isSome_iff_exists.mp found
  obtain ⟨before, count, after, split, here, none⟩ := List.findSome?_eq_some_iff.mp first
  have place : before = List.range count ∧ count < 17 := by
    rw [List.range_eq_range'] at split
    obtain ⟨k, within, rfl, rest⟩ := List.range'_eq_append_iff.mp split
    obtain ⟨same, some, -⟩ := List.range'_eq_cons_iff.mp rest.symm
    have isCount : k = count := by omega
    exact ⟨by rw [isCount, List.range_eq_range'], by omega⟩
  obtain ⟨inside, back⟩ := readingBack_mem here
  refine ⟨count, place.2, n, ?_, inside, back, ?_⟩
  · simp only [shortest]
    rw [show (List.range 17).findSome? (fun k => readingBack? (scaled mantissa exponent) (mantissa, exponent) (k + 1)) =
      some n from first]
  · intro fewer less other otherInside otherBack
    obtain ⟨earlier, earlierFound⟩ := exists_readingBack otherInside otherBack
    have missing : readingBack? (scaled mantissa exponent) (mantissa, exponent) (fewer + 1) = Option.none :=
      none fewer (by rw [place.1]; exact List.mem_range.mpr less)
    rw [missing] at earlierFound
    cases earlierFound

/-- A shortest numeral reads back. -/
theorem nearest_shortest {mantissa : Nat} {exponent : Int} (fits : double.Fits mantissa exponent)
    (positive : 0 < mantissa) : double.nearest (shortest mantissa exponent).value = (mantissa, exponent) := by
  obtain ⟨count, -, n, same, -, back, -⟩ := exists_shortest fits positive
  rw [same, (value_strip 18 n).1, back]

/-! ## Numerals of integers -/

/-- The shortest numeral of an integer has no fraction: with as many digits as
    the integer has it would read back. -/
theorem exists_shortest_integer {mantissa : Nat} {exponent : Int} (fits : double.Fits mantissa exponent)
    (positive : 0 < mantissa) {n : Nat} (whole : scaled mantissa exponent = n) :
    ∃ digits zeros : Nat, shortest mantissa exponent = ⟨digits, zeros⟩ ∧ 0 < digits ∧
      double.nearest (digits * 10 ^ zeros : Nat) = (mantissa, exponent) ∧ digits * 10 ^ zeros ≤ 2 * n := by
  obtain ⟨count, -, numeral, same, inside, back, first⟩ := exists_shortest fits positive
  have above : (0 : Rat) < n := whole ▸ scaled_pos positive exponent
  have exact : double.nearest (n : Rat) = (mantissa, exponent) := by
    rw [← whole]
    exact nearest_scaled fits Double.double_digits
  rw [whole] at inside first
  obtain ⟨low, high⟩ := floorLog10_spec above
  have logNonneg : 0 ≤ floorLog10 n := by
    have one : (10 : Rat) ^ (0 : Int) ≤ n := by
      have : 1 ≤ n := by exact_mod_cast above
      simpa using (by exact_mod_cast this : (1 : Rat) ≤ n)
    have := (zpow_lt_zpow_iff_right₀ (by norm_num : (1 : Rat) < 10)).mp (one.trans_lt high)
    omega
  have fewDigits : (count : Int) ≤ floorLog10 n := by
    by_contra many
    obtain ⟨digits, around, below, beyond⟩ := neighbours_around above ((floorLog10 n).toNat + 1)
    have noPlaces : floorLog10 n - (((floorLog10 n).toNat + 1 : Nat) - 1) = 0 := by omega
    rw [noPlaces] at around below beyond
    simp only [zpow_zero, mul_one] at below beyond
    have digitsIs : digits = n := by
      have below' : digits ≤ n := by exact_mod_cast below
      have beyond' : n < digits + 1 := by exact_mod_cast beyond
      omega
    refine first (floorLog10 n).toNat (by omega) ⟨digits, 0⟩ (by rw [around]; simp) ?_
    rw [Numeral.value, digitsIs, zpow_zero, mul_one, exact]
  obtain ⟨place, -, value⟩ := neighbour_bounds above inside
  obtain ⟨stripped, more⟩ := value_strip 18 numeral
  rw [← stripped] at back value
  rw [same]
  generalize numeral.strip 18 = best at back value more
  obtain ⟨digits, places⟩ := best
  obtain ⟨zeros, rfl⟩ := Int.eq_ofNat_of_zero_le (show 0 ≤ places by simp only [] at more; omega)
  have valueIs : Numeral.value ⟨digits, zeros⟩ = (digits * 10 ^ zeros : Nat) := by
    rw [Numeral.value, zpow_natCast]
    push_cast
    rfl
  refine ⟨digits, zeros, rfl, Nat.pos_of_ne_zero ?_, by rw [← valueIs, back], ?_⟩
  · rintro rfl
    have zero : double.nearest 0 = (mantissa, exponent) := by simpa [valueIs] using back
    have least : double.nearest 0 = (0, double.minExponent) := by simp [Format.nearest]
    rw [least] at zero
    cases zero
    exact absurd positive (lt_irrefl 0)
  · rw [valueIs] at value
    exact_mod_cast value

/-- Ten times a number has a zero more. -/
theorem numeralChars_zeros {n : Nat} (positive : 0 < n) (zeros : Nat) :
    Text.numeralChars (n * 10 ^ zeros) = Text.numeralChars n ++ List.replicate zeros '0' := by
  induction zeros with
  | zero => simp
  | succ zeros ih =>
    have power : 0 < 10 ^ zeros := Nat.pow_pos (by decide)
    have large : ¬ n * 10 ^ (zeros + 1) < 10 := by
      have : 10 * 1 ≤ 10 * (n * 10 ^ zeros) := Nat.mul_le_mul_left 10 (Nat.mul_pos positive power)
      rw [Nat.pow_succ, ← Nat.mul_assoc]
      omega
    have tenth : n * 10 ^ (zeros + 1) / 10 = n * 10 ^ zeros ∧ n * 10 ^ (zeros + 1) % 10 = 0 := by
      rw [Nat.pow_succ, ← Nat.mul_assoc]
      omega
    rw [Text.numeralChars, if_neg large, tenth.1, tenth.2, ih, List.append_assoc, List.replicate_succ']
    rfl

/-- A number has at least as many digits as the power of ten below it. -/
theorem pow_length_numeralChars_le {n : Nat} (positive : 0 < n) : 10 ^ ((Text.numeralChars n).length - 1) ≤ n := by
  induction n using Text.numeralChars.induct with
  | case1 n small =>
    rw [Text.numeralChars, if_pos small]
    exact positive
  | case2 n large ih =>
    have shorter := ih (by omega)
    have some : 0 < (Text.numeralChars (n / 10)).length := List.length_pos_iff.mpr (Text.numeralChars_ne_nil _)
    have length : (Text.numeralChars n).length - 1 = (Text.numeralChars (n / 10)).length - 1 + 1 := by
      rw [Text.numeralChars, if_neg large, List.length_append, List.length_singleton]
      omega
    rw [length, Nat.pow_succ]
    omega

/-- A numeral without a fraction is written as the digits of an integer, as long
    as it has no more than the digits of positional notation. -/
theorem chars_of_zeros {digits zeros : Nat} (positive : 0 < digits) (bounded : digits * 10 ^ zeros < 10 ^ 21) :
    Numeral.chars ⟨digits, zeros⟩ = Text.numeralChars (digits * 10 ^ zeros) := by
  have some : 0 < (Text.numeralChars digits).length := List.length_pos_iff.mpr (Text.numeralChars_ne_nil _)
  have places : (Text.numeralChars digits).length - 1 + zeros < 21 := by
    apply (Nat.pow_lt_pow_iff_right (by decide : 1 < 10)).mp
    rw [Nat.pow_add]
    exact (Nat.mul_le_mul_right _ (pow_length_numeralChars_le positive)).trans_lt bounded
  have positional : 0 ≤ (zeros : Int) ∧ ((Text.numeralChars digits).length : Int) + zeros ≤ 21 := by omega
  rw [numeralChars_zeros positive, Numeral.chars]
  simp only [positional, and_self, ↓reduceIte, Int.toNat_natCast]

end CqlTable.Number

namespace CqlTable.Double

open Number

/-- The double of an integer that a double is, is that double, but for the sign
    of zero. -/
theorem ofInt_of_toInt {d : Double} {i : Int} (integer : d.toInt? = some i) : ofInt i = d.plainZero := by
  by_cases zero : i = 0
  · subst zero
    rw [plainZero_of_zero integer]
    rfl
  · rw [plainZero_of_nonzero integer zero, ← ofMagnitude_of_toInt integer zero]
    by_cases negative : i < 0
    · have same : i = -(i.natAbs : Int) := by omega
      rw [decide_eq_true negative, ← ofInt_neg_natCast (by omega), ← same]
    · have same : i = (i.natAbs : Int) := by omega
      rw [decide_eq_false negative, ← ofInt_natCast, ← same]

/-- A double that is no integer up to two to the fifty-third is written as its
    shortest numeral. -/
theorem text_of_shortest {negative : Bool} {mantissa : Nat} {exponent : Int} {fits : double.Fits mantissa exponent}
    (long : ∀ i, (finite negative mantissa exponent fits).toInt? = some i → greatestExact < i.natAbs) :
    (finite negative mantissa exponent fits).text =
      String.ofList ((if negative then ['-'] else []) ++ (shortest mantissa exponent).chars) := by
  simp only [text]
  split
  · rename_i i integer
    have far : ¬ i.natAbs ≤ 9007199254740992 := Nat.not_le.mpr (long i integer)
    simp only [far, ↓reduceIte]
  · rfl

/-- A double that is an integer is written as an integer which has it as its
    double. Up to two to the fifty-third that is the integer itself. -/
theorem exists_integer_text {d : Double} {i : Int} (integer : d.toInt? = some i) (bounded : i.natAbs < 10 ^ 20) :
    ∃ j : Int, d.text = Text.integer j ∧ ofInt j = d.plainZero ∧ (i.natAbs ≤ greatestExact → j = i) := by
  by_cases small : i.natAbs ≤ greatestExact
  · exact ⟨i, text_of_toInt integer small, ofInt_of_toInt integer, fun _ => rfl⟩
  · have nonzero : i ≠ 0 := by
      rintro rfl
      exact small (Nat.zero_le _)
    rw [plainZero_of_nonzero integer nonzero]
    obtain ⟨isFinite, whole⟩ := toInt_eq_some_iff.mp integer
    obtain ⟨negative, mantissa, exponent, fits, rfl⟩ := exists_finite isFinite
    have magnitude : scaled mantissa exponent = i.natAbs := by
      simpa [Double.abs, value] using (toInt_eq_some_iff.mp (toInt_abs integer)).2
    have positive : 0 < mantissa :=
      Nat.pos_of_ne_zero fun zero => nonzero ((isZero_iff integer).mp (by simp [isZero, zero]))
    obtain ⟨digits, zeros, same, some, back, most⟩ := exists_shortest_integer fits positive magnitude
    have written : (finite negative mantissa exponent fits).text =
        String.ofList ((if negative then ['-'] else []) ++ Text.numeralChars (digits * 10 ^ zeros)) := by
      have long (j : Int) (other : (finite negative mantissa exponent fits).toInt? = Option.some j) :
          greatestExact < j.natAbs := by
        rw [integer] at other
        exact Option.some.inj other ▸ Nat.not_le.mp small
      rw [text_of_shortest long, same, chars_of_zeros some (by omega)]
    have rounded (sign : Bool) : ofMagnitude sign (digits * 10 ^ zeros : Nat) = finite sign mantissa exponent fits := by
      simp only [ofMagnitude, back, fits, ↓reduceDIte]
    have above : 0 < digits * 10 ^ zeros := Nat.mul_pos some (Nat.pow_pos (by decide))
    rw [written]
    cases negative with
    | false => exact ⟨(digits * 10 ^ zeros : Nat), rfl, by rw [ofInt_natCast, rounded], fun near => absurd near small⟩
    | true =>
      refine ⟨-(digits * 10 ^ zeros : Nat), ?_, by rw [ofInt_neg_natCast above, rounded], fun near => absurd near small⟩
      obtain ⟨before, same⟩ := Nat.exists_eq_succ_of_ne_zero above.ne'
      rw [same]
      rfl

end CqlTable.Double
