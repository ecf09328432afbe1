import CqlTable.Number.Places
import CqlTable.Proofs.Number.DecimalText

/-!
# Numbers as they are written

The reader accepts exactly the texts of the grammar of numbers
(`isSome_ofText_iff`). Both ways to write a finite double keep to it: the
shortest numeral, because it is read back (`Double.isNumber_text`), and the
rounded one, because a number stays one when zeros behind its point are left out
(`Double.isNumber_generalText`).
-/

namespace CqlTable.Number

open Text

/-- A number and nothing around it: a sign, digits with at most one point, and
    an exponent, of which the first and the last may be left out. -/
inductive IsNumber : List Char → Prop
  | parts {sign significand digits exponent : List Char} {negative : Bool} {places : Nat} {e : Int}
      (signed : Sign sign negative) (isSignificand : Significand significand digits places)
      (isExponent : Exponent exponent e) : IsNumber (sign ++ (significand ++ exponent))

variable {cs : List Char}

/-! ## What is read is of the grammar -/

theorem exists_sign (cs : List Char) : ∃ sign, cs = sign ++ (takeSign cs).2 ∧ Sign sign (takeSign cs).1 := by
  obtain ⟨sign, split, agrees⟩ := takeSign_split cs
  refine ⟨sign, split, ?_⟩
  rcases agrees with ⟨rfl, negative⟩ | ⟨rfl | rfl, positive⟩
  · rw [negative]
    exact .minus
  · rw [positive]
    exact .absent
  · rw [positive]
    exact .plus

theorem exponent_of_part {e : Int} (read : exponentPart? cs = some e) : Exponent cs e := by
  cases cs with
  | nil =>
    cases read
    exact .absent
  | cons mark rest =>
    rw [exponentPart?] at read
    split at read
    · rename_i letter
      obtain ⟨sign, split, signed⟩ := exists_sign rest
      unfold integerValue? at read
      generalize takeSign rest = taken at read split signed
      simp only [] at read
      split at read
      · rename_i numeral
        have digits : Digits taken.2 := by simpa [isNumeral, Digits] using numeral
        cases read
        rw [split]
        exact .present letter signed digits
      · cases read
    · cases read

theorem significand_of_parts {whole fraction : List Char} {e : Int}
    (read : decimalParts? cs = some (whole, fraction, e)) :
    ∃ significand digits places exponent, cs = significand ++ exponent ∧ Significand significand digits places ∧
      Exponent exponent e := by
  unfold decimalParts? at read
  obtain ⟨ds, rest, taken⟩ : ∃ ds rest, takeDigits cs = (ds, rest) := ⟨_, _, rfl⟩
  obtain ⟨rfl, front⟩ := takeDigits_eq taken
  rw [taken] at read
  simp only [] at read
  split at read
  · rename_i after
    obtain ⟨more, tail, takenMore⟩ : ∃ more tail, takeDigits after = (more, tail) := ⟨_, _, rfl⟩
    obtain ⟨rfl, back⟩ := takeDigits_eq takenMore
    rw [takenMore] at read
    simp only [] at read
    split at read
    · cases read
    · rename_i some
      obtain ⟨e', part, same⟩ := Option.map_eq_some_iff.mp read
      cases same
      have digits : Digits (whole ++ fraction) := by
        refine ⟨fun none => some ?_, List.forall_mem_append.mpr ⟨front, back⟩⟩
        simpa using none
      exact ⟨_, _, _, tail, by simp, .pointed digits, exponent_of_part part⟩
  · split at read
    · cases read
    · rename_i some
      obtain ⟨e', part, same⟩ := Option.map_eq_some_iff.mp read
      cases same
      exact ⟨whole, _, _, rest, rfl, .whole ⟨by simpa using some, front⟩, exponent_of_part part⟩

/-- The reader accepts a text exactly when it is a number of the grammar. -/
theorem isSome_ofText_iff : (ofText? cs).isSome = true ↔ IsNumber cs := by
  constructor
  · intro read
    obtain ⟨sign, split, signed⟩ := exists_sign cs
    simp only [ofText?, Option.isSome_map] at read
    obtain ⟨⟨whole, fraction, e⟩, parts⟩ := Option.isSome_iff_exists.mp read
    obtain ⟨significand, digits, places, exponent, rest, isSignificand, isExponent⟩ := significand_of_parts parts
    rw [split, rest]
    exact .parts signed isSignificand isExponent
  · rintro ⟨signed, isSignificand, isExponent⟩
    obtain ⟨whole, fraction, parts, -, -⟩ := isSignificand.parts isExponent
    rw [ofText?, signed.takeSign (isSignificand.unsigned _)]
    simp [parts]

/-! ## Rounded numerals -/

/-- A number with places is its digits, around a point if there are places. -/
theorem fixedChars_split (digits places : Nat) : ∃ whole fraction, Digits whole ∧
    (∀ c ∈ fraction, isDigit c = true) ∧ fraction.length = places ∧ numeralValue (whole ++ fraction) = digits ∧
    whole.length + places = max (places + 1) (numeralChars digits).length ∧
    fixedChars digits places = whole ++ (if places = 0 then [] else '.' :: fraction) := by
  have allDigits := padDigits_digits (places + 1) digits
  have value := numeralValue_padDigits (places + 1) digits
  have length := length_padDigits (places + 1) digits
  have chars : fixedChars digits places = if places = 0 then padDigits (places + 1) digits
      else pointed (padDigits (places + 1) digits) ((padDigits (places + 1) digits).length - places) := rfl
  rw [chars]
  generalize padDigits (places + 1) digits = ds at allDigits value length
  refine ⟨ds.take (ds.length - places), ds.drop (ds.length - places), ⟨?_, ?_⟩, ?_, ?_, ?_, ?_, ?_⟩
  · apply List.ne_nil_of_length_pos
    rw [List.length_take]
    omega
  · exact fun c inside => allDigits c (List.mem_of_mem_take inside)
  · exact fun c inside => allDigits c (List.mem_of_mem_drop inside)
  · rw [List.length_drop]
    omega
  · rw [List.take_append_drop, value]
  · rw [List.length_take]
    omega
  · by_cases none : places = 0
    · simp [none]
    · simp [none, pointed]

theorem significand_pointed {whole fraction : List Char} (wholeDigits : Digits whole)
    (digits : ∀ c ∈ fraction, isDigit c = true) :
    Significand (whole ++ '.' :: fraction) (whole ++ fraction) fraction.length :=
  .pointed ⟨by simp [wholeDigits.1], List.forall_mem_append.mpr ⟨wholeDigits.2, digits⟩⟩

theorem significand_fixedChars (digits places : Nat) : ∃ ds count, Significand (fixedChars digits places) ds count := by
  obtain ⟨whole, fraction, wholeDigits, fractionDigits, -, -, -, same⟩ := fixedChars_split digits places
  rw [same]
  by_cases none : places = 0
  · rw [if_pos none, List.append_nil]
    exact ⟨whole, 0, .whole wholeDigits⟩
  · rw [if_neg none]
    exact ⟨_, _, significand_pointed wholeDigits fractionDigits⟩

/-! ## Zeros that are left out -/

/-- What stands behind the digits before a point: nothing, or the point and
    digits of which the last is not zero. -/
inductive Trimmed : List Char → Prop
  | nothing : Trimmed []
  | pointed {ds : List Char} (digits : Digits ds) (last : ds.getLast? ≠ some '0') : Trimmed ('.' :: ds)

theorem trimFraction_of_no_point {cs : List Char} (none : '.' ∉ cs) : trimFraction cs = cs := by
  rw [trimFraction, if_neg (by simpa using none)]

/-- What stands before a point is kept. -/
theorem trimFraction_append {front : List Char} (none : '.' ∉ front) (cs : List Char) :
    trimFraction (front ++ cs) = front ++ trimFraction cs := by
  by_cases point : '.' ∈ cs
  · have inside : (front ++ cs).contains '.' = true := by simp [point]
    have inside' : cs.contains '.' = true := by simpa using point
    rw [trimFraction, trimFraction, if_pos inside, if_pos inside', List.reverse_append, List.dropWhile_append]
    cases dropped : cs.reverse.dropWhile (· == '0') with
    | nil =>
      have zero : '.' = '0' := by simpa using List.dropWhile_eq_nil_iff.mp dropped '.' (by simpa using point)
      exact absurd zero (by decide)
    | cons last before =>
      by_cases isPoint : last = '.'
      · simp [isPoint]
      · simp [isPoint]
  · rw [trimFraction_of_no_point point, trimFraction_of_no_point (by simp [none, point])]

/-- Behind a point the zeros at the end are left out, and the point where all
    digits are zeros. -/
theorem trimFraction_point {fraction : List Char} (digits : ∀ c ∈ fraction, isDigit c = true) :
    ∃ kept zeros, fraction = kept ++ List.replicate zeros '0' ∧ kept.getLast? ≠ some '0' ∧
      trimFraction ('.' :: fraction) = if kept = [] then [] else '.' :: kept := by
  have zeros : fraction.reverse.takeWhile (· == '0') =
      List.replicate (fraction.reverse.takeWhile (· == '0')).length '0' := by
    refine List.eq_replicate_of_mem fun c inside => ?_
    simpa using List.mem_takeWhile_imp inside
  have split : fraction = (fraction.reverse.dropWhile (· == '0')).reverse ++
      List.replicate (fraction.reverse.takeWhile (· == '0')).length '0' := by
    rw [← List.reverse_replicate, ← zeros, ← List.reverse_append, List.takeWhile_append_dropWhile,
      List.reverse_reverse]
  refine ⟨_, _, split, ?_, ?_⟩
  · rw [List.getLast?_reverse]
    intro last
    have notZero := List.head?_dropWhile_not (· == '0') fraction.reverse
    simp [last] at notZero
  · have point : ('.' :: fraction).contains '.' = true := by simp
    rw [trimFraction, if_pos point, List.reverse_cons, List.dropWhile_append]
    cases dropped : fraction.reverse.dropWhile (· == '0') with
    | nil => simp
    | cons last before =>
      have suffix : last :: before <:+ fraction.reverse := dropped ▸ List.dropWhile_suffix _
      have notPoint : last ≠ '.' := by
        rintro rfl
        exact absurd (digits '.' (by simpa using suffix.subset List.mem_cons_self)) (by decide)
      simp [notPoint]

theorem numeralValue_trailing (ds : List Char) (zeros : Nat) :
    numeralValue (ds ++ List.replicate zeros '0') = numeralValue ds * 10 ^ zeros := by
  induction zeros with
  | zero => simp
  | succ zeros ih =>
    have zero : digitValue '0' = 0 := by decide
    rw [List.replicate_succ', ← List.append_assoc, numeralValue_append_digit, ih, zero]
    ring

/-- Without zeros at the end a number with places has the same value. -/
theorem trimFraction_fixedChars (digits places : Nat) : ∃ whole fraction ds count,
    trimFraction (fixedChars digits places) = whole ++ fraction ∧ Digits whole ∧ Trimmed fraction ∧
      Significand (whole ++ fraction) ds count ∧
      (numeralValue ds : Rat) * (10 : Rat) ^ (-count : Int) = digits * (10 : Rat) ^ (-places : Int) ∧
      whole.length + places = max (places + 1) (numeralChars digits).length := by
  obtain ⟨whole, fraction, wholeDigits, fractionDigits, rfl, rfl, length, same⟩ := fixedChars_split digits places
  rw [same]
  by_cases none : fraction.length = 0
  · obtain rfl : fraction = [] := List.length_eq_zero_iff.mp none
    have noPoint : '.' ∉ whole := fun point => absurd (wholeDigits.2 _ point) (by decide)
    refine ⟨whole, [], whole, 0, ?_, wholeDigits, .nothing, ?_, ?_, length⟩
    · simp [trimFraction_of_no_point noPoint]
    · rw [List.append_nil]
      exact .whole wholeDigits
    · simp
  · obtain ⟨kept, zeros, split, last, trimmed⟩ := trimFraction_point fractionDigits
    have noPoint : '.' ∉ whole := fun point => absurd (wholeDigits.2 _ point) (by decide)
    have keptDigits : ∀ c ∈ kept, isDigit c = true :=
      fun c inside => fractionDigits c (by simp [split, inside])
    have value : (numeralValue (whole ++ kept) : Rat) * (10 : Rat) ^ (-kept.length : Int) =
        numeralValue (whole ++ fraction) * (10 : Rat) ^ (-fraction.length : Int) := by
      rw [split, ← List.append_assoc, numeralValue_trailing, List.length_append, List.length_replicate]
      push_cast
      rw [neg_add, zpow_add₀ (by norm_num), zpow_neg (10 : Rat) zeros, zpow_natCast]
      field_simp
    rw [if_neg none, trimFraction_append noPoint, trimmed]
    by_cases all : kept = []
    · subst all
      refine ⟨whole, [], whole, 0, by simp, wholeDigits, .nothing, ?_, by simpa using value, length⟩
      rw [List.append_nil]
      exact .whole wholeDigits
    · rw [if_neg all]
      exact ⟨whole, '.' :: kept, _, _, rfl, wholeDigits, .pointed ⟨all, keptDigits⟩ last,
        significand_pointed wholeDigits keptDigits, value, length⟩

theorem sign_minus (negative : Bool) : Sign (if negative then ['-'] else []) negative := by
  cases negative with
  | false => exact .absent
  | true => exact .minus

theorem exponent_exponentChars (exponent : Int) : Exponent (exponentChars exponent) exponent := by
  have digits : Digits (padDigits 2 exponent.natAbs) := ⟨padDigits_ne_nil _ _, padDigits_digits _ _⟩
  have value := numeralValue_padDigits 2 exponent.natAbs
  by_cases below : exponent < 0
  · have present := Exponent.present (.inl rfl) .minus digits
    rw [value, if_pos rfl, show -(exponent.natAbs : Int) = exponent from by omega] at present
    rw [exponentChars, if_pos below]
    exact present
  · have present := Exponent.present (.inl rfl) .plus digits
    rw [value, if_neg Bool.false_ne_true, show (exponent.natAbs : Int) = exponent from by omega] at present
    rw [exponentChars, if_neg below]
    exact present

/-- The exponent of rounded digits is that of a power of ten above the number. -/
theorem lt_significant {q : Rat} (positive : 0 < q) (count : Nat) : q < (10 : Rat) ^ ((significant count q).2 + 1) := by
  obtain ⟨-, high⟩ := floorLog10_spec positive
  unfold significant
  simp only []
  split
  · exact lt_trans high (zpow_lt_zpow_right₀ (by norm_num) (by omega))
  · exact high

end CqlTable.Number

namespace CqlTable.Double

open Number Text

/-- The text of a finite double is a number. -/
theorem isNumber_text {d : Double} (isFinite : d.isFinite = true) : IsNumber d.text.toList := by
  apply isSome_ofText_iff.mp
  rw [ofText_text isFinite]
  rfl

variable {negative : Bool} {mantissa : Nat} {exponent : Int} {fits : double.Fits mantissa exponent}

theorem value_lt_zero_iff (nonzero : mantissa ≠ 0) : (finite negative mantissa exponent fits).value < 0 ↔
    negative = true := by
  have positive := scaled_pos (Nat.pos_of_ne_zero nonzero) exponent
  cases negative with
  | false => simpa [value] using positive.le
  | true => simpa [value] using positive

theorem toList_fixedText (nonzero : mantissa ≠ 0) (below : scaled mantissa exponent < (10 : Rat) ^ (21 : Int))
    (places : Nat) : ((finite negative mantissa exponent fits).fixedText places).toList =
      (if negative then ['-'] else []) ++
        fixedChars (nearestUp (scaled mantissa exponent * (10 : Rat) ^ (places : Int))).toNat places := by
  simp only [fixedText, if_neg (not_le.mpr below), value_lt_zero_iff nonzero, String.toList_ofList]

/-- Both forms of a rounded number have its sign, which no zeros are left out
    of. -/
theorem toList_generalText {count : Nat} (counted : count ≤ 21) (nonzero : mantissa ≠ 0) {digits : Nat} {e : Int}
    (rounded : significant count (scaled mantissa exponent) = (digits, e)) :
    ((finite negative mantissa exponent fits).generalText count).toList = (if negative then ['-'] else []) ++
      if e < -4 ∨ count ≤ e then trimFraction (fixedChars digits (count - 1)) ++ exponentChars e
      else trimFraction (fixedChars (nearestUp (scaled mantissa exponent *
        (10 : Rat) ^ ((count - 1 - e).toNat : Int))).toNat (count - 1 - e).toNat) := by
  rw [generalText]
  simp only [if_neg nonzero, rounded]
  by_cases scientific : e < -4 ∨ count ≤ e
  · rw [if_pos scientific, if_pos scientific, String.toList_ofList]
  · have below : scaled mantissa exponent < (10 : Rat) ^ (21 : Int) := by
      have high := lt_significant (scaled_pos (Nat.pos_of_ne_zero nonzero) exponent) count
      rw [rounded] at high
      exact lt_of_lt_of_le high (zpow_le_zpow_right₀ (by norm_num) (by omega))
    have noPoint : '.' ∉ (if negative then ['-'] else []) := by
      cases negative <;> decide
    rw [if_neg scientific, if_neg scientific, String.toList_ofList, toList_fixedText nonzero below,
      trimFraction_append noPoint]

/-- The text of a finite double with a count of significant digits is a
    number. -/
theorem isNumber_generalText {count : Nat} (counted : count ≤ 21) {d : Double} (isFinite : d.isFinite = true) :
    IsNumber (d.generalText count).toList := by
  obtain ⟨negative, mantissa, exponent, fits, rfl⟩ := exists_finite isFinite
  by_cases zero : mantissa = 0
  · simp only [generalText, zero, if_true, String.toList_ofList]
    have number := IsNumber.parts (sign_minus negative) (.whole (show Digits ['0'] by decide)) .absent
    rwa [List.append_nil] at number
  · obtain ⟨digits, e, rounded⟩ : ∃ digits e, significant count (scaled mantissa exponent) = (digits, e) := ⟨_, _, rfl⟩
    rw [toList_generalText counted zero rounded]
    by_cases scientific : e < -4 ∨ count ≤ e
    · obtain ⟨whole, fraction, ds, places, trimmed, -, -, significand, -⟩ := trimFraction_fixedChars digits (count - 1)
      rw [if_pos scientific, trimmed]
      exact .parts (sign_minus negative) significand (exponent_exponentChars e)
    · obtain ⟨whole, fraction, ds, places, trimmed, -, -, significand, -⟩ := trimFraction_fixedChars
        (nearestUp (scaled mantissa exponent * (10 : Rat) ^ ((count - 1 - e).toNat : Int))).toNat (count - 1 - e).toNat
      have number := IsNumber.parts (sign_minus negative) significand .absent
      rw [List.append_nil] at number
      rwa [if_neg scientific, trimmed]

end CqlTable.Double
