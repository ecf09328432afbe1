import CqlTable.Number.Reading
import CqlTable.Proofs.Number.Overflow

/-!
# Numerals that are read back

A numeral is written in one of four notations, and each is read as the value of
the numeral (`spells_chars`). So the text of a double is read as the double,
but for the sign of zero (`ofText_text`).
-/

namespace CqlTable.Number

open Text

/-! ## Parts of a number -/

/-- What follows digits without a point is the exponent. -/
theorem decimalParts_whole {ds rest : List Char} (digits : ∀ c ∈ ds, isDigit c = true) (nonempty : ds ≠ [])
    (ends : ∀ c ∈ rest.head?, isDigit c = false ∧ c ≠ '.') :
    decimalParts? (ds ++ rest) = (exponentPart? rest).map fun e => (ds, [], e) := by
  rw [decimalParts?, takeDigits_append digits fun c head => (ends c head).1]
  simp only []
  split
  · exact absurd rfl (ends '.' rfl).2
  · simp [nonempty]

/-- What follows the digits after a point is the exponent. -/
theorem decimalParts_pointed {whole fraction rest : List Char} (wholeDigits : ∀ c ∈ whole, isDigit c = true)
    (some : whole ≠ [] ∨ fraction ≠ []) (digits : ∀ c ∈ fraction, isDigit c = true)
    (ends : ∀ c ∈ rest.head?, isDigit c = false) :
    decimalParts? (whole ++ '.' :: (fraction ++ rest)) =
      (exponentPart? rest).map fun e => (whole, fraction, e) := by
  rw [decimalParts?, takeDigits_append wholeDigits (by simp; decide)]
  have notEmpty : ¬ (whole.isEmpty = true ∧ fraction.isEmpty = true) := by
    rw [List.isEmpty_iff, List.isEmpty_iff]
    exact fun empty => some.elim (fun nonempty => nonempty empty.1) fun nonempty => nonempty empty.2
  simp only [takeDigits_append digits ends, if_neg notEmpty]

theorem exponentPart_signed (e : Int) : exponentPart? ('e' :: signedExponent e) = some e := by
  have signed : integerValue? ([if e < 0 then '-' else '+'] ++ numeralChars e.natAbs) = some e := by
    refine integerValue_signed (numeralChars_digits _) (numeralChars_ne_nil _) (numeralValue_numeralChars _) ?_
    split
    · exact .inl ⟨rfl, by omega⟩
    · exact .inr ⟨.inr rfl, by omega⟩
  rw [exponentPart?, if_pos (Or.inl rfl)]
  exact signed

/-! ## Notations -/

/-- The text begins with a digit and is a number whose parts have the value. -/
def Spells (cs : List Char) (q : Rat) : Prop :=
  (∀ c ∈ cs.head?, isDigit c = true) ∧
    ∃ whole fraction e, decimalParts? cs = some (whole, fraction, e) ∧
      Numeral.value ⟨numeralValue (whole ++ fraction), e - fraction.length⟩ = q

theorem first_digit {ds : List Char} (digits : ∀ c ∈ ds, isDigit c = true) (nonempty : ds ≠ []) (rest : List Char) :
    ∀ c ∈ (ds ++ rest).head?, isDigit c = true := by
  intro c head
  rw [List.head?_append_of_ne_nil _ nonempty] at head
  exact digits c (List.mem_of_mem_head? head)

theorem spells_whole {n : Numeral} {ds rest : List Char} (digits : ∀ c ∈ ds, isDigit c = true) (nonempty : ds ≠ [])
    (ends : ∀ c ∈ rest.head?, isDigit c = false ∧ c ≠ '.') (value : numeralValue ds = n.digits)
    (exponent : exponentPart? rest = some n.exponent) : Spells (ds ++ rest) n.value := by
  refine ⟨first_digit digits nonempty _, ds, [], n.exponent, ?_, ?_⟩
  · rw [decimalParts_whole digits nonempty ends, exponent]
    rfl
  · rw [List.append_nil, value]
    simp

theorem spells_pointed {n : Numeral} {whole fraction rest : List Char} {e : Int}
    (wholeDigits : ∀ c ∈ whole, isDigit c = true) (nonempty : whole ≠ []) (digits : ∀ c ∈ fraction, isDigit c = true)
    (ends : ∀ c ∈ rest.head?, isDigit c = false) (value : numeralValue (whole ++ fraction) = n.digits)
    (exponent : exponentPart? rest = some e) (place : e - fraction.length = n.exponent) :
    Spells (whole ++ '.' :: (fraction ++ rest)) n.value := by
  refine ⟨first_digit wholeDigits nonempty _, whole, fraction, e, ?_, ?_⟩
  · rw [decimalParts_pointed wholeDigits (.inl nonempty) digits ends, exponent]
    rfl
  · rw [value, place]

theorem spells_numeral (n : Nat) : Spells (numeralChars n) n := by
  have spelled : Spells (numeralChars n ++ []) (Numeral.value ⟨n, 0⟩) :=
    spells_whole (numeralChars_digits n) (numeralChars_ne_nil n) (by simp) (numeralValue_numeralChars n) rfl
  simpa [Numeral.value] using spelled

/-- Digits around a point without an exponent. -/
theorem spells_fixed {n : Numeral} {whole fraction : List Char} (wholeDigits : ∀ c ∈ whole, isDigit c = true)
    (nonempty : whole ≠ []) (digits : ∀ c ∈ fraction, isDigit c = true)
    (value : numeralValue (whole ++ fraction) = n.digits) (place : n.exponent = -(fraction.length : Int)) :
    Spells (whole ++ '.' :: fraction) n.value := by
  have spelled : Spells (whole ++ '.' :: (fraction ++ [])) n.value :=
    spells_pointed wholeDigits nonempty digits (by simp) value rfl (by omega)
  rwa [List.append_nil] at spelled

/-- Each notation of a numeral has its value. -/
theorem spells_chars {n : Numeral} (positive : 0 < n.digits) : Spells n.chars n.value := by
  have digits := numeralChars_digits n.digits
  have nonempty := numeralChars_ne_nil n.digits
  have value := numeralValue_numeralChars n.digits
  have zeros := numeralChars_zeros positive n.exponent.toNat
  unfold Numeral.chars
  generalize numeralChars n.digits = ds at *
  have some : 0 < ds.length := List.length_pos_iff.mpr nonempty
  have taken (count : Nat) : ∀ c ∈ ds.take count, isDigit c = true :=
    fun c inside => digits c (List.mem_of_mem_take inside)
  have dropped (count : Nat) : ∀ c ∈ ds.drop count, isDigit c = true :=
    fun c inside => digits c (List.mem_of_mem_drop inside)
  have whole {count : Nat} (inside : 0 < count) : ds.take count ≠ [] :=
    List.ne_nil_of_length_pos (by rw [List.length_take]; omega)
  have parts (count : Nat) : numeralValue (ds.take count ++ ds.drop count) = n.digits := by
    rw [List.take_append_drop, value]
  obtain ⟨places, placesIs⟩ : ∃ places : Int, places = ds.length + n.exponent := ⟨_, rfl⟩
  simp only [← placesIs]
  split
  · rename_i positional
    have same : n.value = (n.digits * 10 ^ n.exponent.toNat : Nat) := by
      rw [Numeral.value, ← Int.toNat_of_nonneg positional.1, zpow_natCast]
      push_cast
      rfl
    rw [same, ← zeros]
    exact spells_numeral _
  -- The point stands inside the digits, in front of them, or after the first with an exponent.
  · split
    · have length : (ds.drop places.toNat).length = ds.length - places.toNat := List.length_drop
      exact spells_fixed (taken places.toNat) (whole (by omega)) (dropped places.toNat) (parts places.toNat) (by omega)
    · split
      · have length : (List.replicate (-places).toNat '0' ++ ds).length = (-places).toNat + ds.length := by simp
        have zeros := numeralValue_zeros ((-places).toNat + 1) ds
        have zero : ∀ c ∈ ['0'], isDigit c = true := List.forall_mem_singleton.mpr (by decide)
        show Spells (['0'] ++ '.' :: (List.replicate (-places).toNat '0' ++ ds)) n.value
        exact spells_fixed zero (by simp) (zeros_digits digits _) (zeros.trans value) (by omega)
      · have marked (e : Int) : ∀ c ∈ ('e' :: signedExponent e).head?, isDigit c = false ∧ c ≠ '.' := by
          rintro _ ⟨⟩
          decide
        split
        · have exponent : places - 1 = n.exponent := by omega
          exact spells_whole digits nonempty (marked _) value (by rw [exponentPart_signed, exponent])
        · have length : (ds.drop 1).length = ds.length - 1 := List.length_drop
          have read := spells_pointed (n := n) (taken 1) (whole (by omega)) (dropped 1)
            (fun c head => (marked (places - 1) c head).1) (parts 1) (exponentPart_signed _) (by omega)
          simpa [pointed] using read

/-! ## Values that are read -/

theorem digits_shortest {mantissa : Nat} {exponent : Int} (fits : double.Fits mantissa exponent)
    (positive : 0 < mantissa) : 0 < (shortest mantissa exponent).digits := by
  refine Nat.pos_of_ne_zero fun none => ?_
  have back := nearest_shortest fits positive
  rw [Numeral.value, none, Nat.cast_zero, zero_mul] at back
  exact positive.ne (congrArg Prod.fst back)

/-- A text is read as the double nearest to the value that it spells. -/
theorem ofText_spelled {cs : List Char} {q : Rat} (negative : Bool) (spelled : Spells cs q) :
    ofText? ((if negative then ['-'] else []) ++ cs) = some (Double.ofMagnitude negative q) := by
  obtain ⟨first, whole, fraction, e, parts, value⟩ := spelled
  have signed : takeSign ((if negative then ['-'] else []) ++ cs) = (negative, cs) := by
    cases negative with
    | false => exact takeSign_of_digit first
    | true => rfl
  rw [ofText?, signed]
  simp only [parts, Option.map_some, ofParts]
  rw [Double.ofDecimal_eq_ofMagnitude]
  exact congrArg (fun q => some (Double.ofMagnitude negative q)) value

/-- The words for numbers that are not finite are not in the grammar. -/
theorem nonFinite_of_ofText {cs : List Char} {d : Double} (read : ofText? cs = some d) : nonFinite? cs = none := by
  have apart {word : String} (unread : (ofText? word.toList).isNone = true) : cs ≠ word.toList := by
    rintro rfl
    rw [read] at unread
    cases unread
  rw [nonFinite?, if_neg (apart (by decide)), if_neg, if_neg (apart (by decide))]
  exact not_or.mpr ⟨apart (by decide), apart (by decide)⟩

end CqlTable.Number

namespace CqlTable.Double

open Number Text

theorem ofText_integer (i : Int) : ofText? (Text.integer i).toList = some (ofDecimal (i < 0) i.natAbs 0) := by
  have parts : decimalParts? (numeralChars i.natAbs ++ []) = some (numeralChars i.natAbs, [], 0) :=
    decimalParts_whole (numeralChars_digits _) (numeralChars_ne_nil _) (by simp)
  rw [List.append_nil] at parts
  have signed : takeSign (Text.integer i).toList = (decide (i < 0), numeralChars i.natAbs) := by
    rw [Text.integer, String.toList_ofList]
    cases i with
    | ofNat n => exact takeSign_digits (numeralChars_digits n)
    | negSucc n => simp [integerChars, takeSign]
  rw [ofText?, signed]
  simp [parts, ofParts, numeralValue_numeralChars]

/-- The text of a finite double is read as the double, but for the sign of
    zero. -/
theorem ofText_text {d : Double} (isFinite : d.isFinite = true) : ofText? d.text.toList = some d.plainZero := by
  by_cases short : ∃ i, d.toInt? = some i ∧ i.natAbs ≤ greatestExact
  · obtain ⟨i, integer, small⟩ := short
    rw [text_of_toInt integer small, ofText_integer, ofDecimal_of_toInt integer]
  · obtain ⟨negative, mantissa, exponent, fits, rfl⟩ := exists_finite isFinite
    have positive : 0 < mantissa := by
      refine Nat.pos_of_ne_zero fun zero => short ⟨0, toInt_eq_some_iff.mpr ⟨rfl, ?_⟩, Nat.zero_le _⟩
      cases negative <;> simp [value, zero, scaled]
    have long (i : Int) (integer : (finite negative mantissa exponent fits).toInt? = some i) :
        greatestExact < i.natAbs := Nat.not_le.mp fun small => short ⟨i, integer, small⟩
    have spelled := spells_chars (digits_shortest fits positive)
    rw [text_of_shortest long, String.toList_ofList, ofText_spelled negative spelled]
    simp [ofMagnitude, nearest_shortest fits positive, fits, plainZero, isZero, positive.ne']

end CqlTable.Double
