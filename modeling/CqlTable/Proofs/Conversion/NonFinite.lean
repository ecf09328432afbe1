import CqlTable.Proofs.Conversion.Null
import CqlTable.Proofs.Number.DecimalText

/-!
# Numbers that are not finite: what is written as infinite and what is refused

A literal of a floating point column names a number that is not finite when the
scalar is that number or a text of its word, and in one case more: an integer
from the limit of doubles on is rounded before anything looks at its size
(`non_finite_literals`). All other numbers from the limit of the type on are
refused as out of range.
-/

namespace CqlTable

open Number Text

variable {kind : FloatKind} {d : Double} {s : Scalar}

/-! ## Words and limits -/

/-- The words for numbers that are not finite. -/
def nonFiniteWords : List (String × Double) :=
  [("NaN", .nan), ("Infinity", .infinite false), ("+Infinity", .infinite false), ("-Infinity", .infinite true)]

/-- The scalar is the number, or a text of its word with blanks around it. -/
inductive Scalar.Names : Scalar → Double → Prop
  | number (d : Double) : Names (.number d) d
  | text {text : String} {d : Double} (word : (Text.trim text, d) ∈ nonFiniteWords) : Names (.text text) d

/-- The magnitude from which on numbers are too large for the precision. -/
def FloatKind.limit : FloatKind → Rat
  | .float => single.limit
  | .double => Number.double.limit

theorem nonFinite_eq_some_iff {cs : List Char} : nonFinite? cs = some d ↔ (String.ofList cs, d) ∈ nonFiniteWords := by
  have same (word : String) : String.ofList cs = word ↔ cs = word.toList := by
    rw [← String.toList_inj, String.toList_ofList]
  simp only [nonFiniteWords, List.mem_cons, List.not_mem_nil, or_false, Prod.mk.injEq, same, nonFinite?]
  split
  · rename_i nan
    simp [nan, eq_comm (a := d)]
  · rename_i notNan
    split
    · rename_i infinity
      rcases infinity with infinity | infinity <;> simp [infinity, eq_comm (a := d)]
    · rename_i notInfinity
      obtain ⟨notPlain, notPlus⟩ := not_or.mp notInfinity
      split
      · rename_i minus
        simp [minus, eq_comm (a := d)]
      · rename_i notMinus
        simp only [notNan, notPlain, notPlus, notMinus, false_and, or_false, reduceCtorEq]

/-- The text of a number that is not finite is its word. -/
theorem nonFinite_nonFiniteText (notFinite : d.isFinite = false) : nonFinite? d.nonFiniteText.toList = some d := by
  cases d with
  | nan => decide
  | infinite negative => cases negative <;> decide
  | finite negative mantissa exponent fits => cases notFinite

theorem nonFinite_of_isNumber {cs : List Char} (number : IsNumber cs) : nonFinite? cs = none := by
  obtain ⟨read, isRead⟩ := Option.isSome_iff_exists.mp (isSome_ofText_iff.mpr number)
  exact nonFinite_of_ofText isRead

/-! ## Literals of floating point numbers -/

theorem encodeFloating_nonFinite (value : floatingValue kind s = .ok d) (notFinite : d.isFinite = false) :
    encodeFloating kind s = .ok (.bare d.nonFiniteText) := by
  rw [encodeFloating, value]
  cases d with
  | finite negative mantissa exponent fits => cases notFinite
  | _ => cases kind <;> rfl

/-- A finite number is written as such below the limit and refused from there
    on. -/
theorem encodeFloating_finite (value : floatingValue kind s = .ok d) (isFinite : d.isFinite = true) :
    (|d.value| < kind.limit ∧ ∃ text, encodeFloating kind s = .ok (.bare text) ∧ nonFinite? text.toList = none) ∨
      (kind.limit ≤ |d.value| ∧ encodeFloating kind s = outOfRange (.floating kind) d.text) := by
  rw [encodeFloating, value]
  cases kind with
  | double =>
    exact .inl ⟨Double.abs_value_lt_limit isFinite, d.text, rfl, nonFinite_of_isNumber (Double.isNumber_text isFinite)⟩
  | float =>
    have below := Double.isFinite_toSingle_iff isFinite
    cases narrow : d.toSingle.isFinite with
    | true =>
      exact .inl ⟨below.mp narrow, d.toSingle.generalText singleDigits, by simp [narrow],
        nonFinite_of_isNumber (Double.isNumber_generalText singleDigits_le narrow)⟩
    | false =>
      rw [narrow] at below
      exact .inr ⟨not_lt.mp fun small => Bool.false_ne_true (below.mpr small), by simp [isFinite, narrow]⟩

theorem encodeFloating_of_error {e : ConversionError} (refused : floatingValue kind s = .error e) :
    encodeFloating kind s = .error e := by
  rw [encodeFloating, refused]

/-- Only a number that is not finite is written as one. -/
theorem encodeFloating_nonFinite_iff (notFinite : d.isFinite = false) :
    encodeFloating kind s = .ok (.bare d.nonFiniteText) ↔ floatingValue kind s = .ok d := by
  refine ⟨fun encoded => ?_, fun value => encodeFloating_nonFinite value notFinite⟩
  have word := nonFinite_nonFiniteText notFinite
  cases value : floatingValue kind s with
  | error e =>
    rw [encodeFloating_of_error value] at encoded
    cases encoded
  | ok other =>
    cases isFinite : other.isFinite with
    | true =>
      rcases encodeFloating_finite value isFinite with ⟨-, text, written, notWord⟩ | ⟨-, refused⟩
      · rw [encoded] at written
        cases written
        rw [word] at notWord
        cases notWord
      · rw [encoded] at refused
        cases refused
    | false =>
      rw [encodeFloating_nonFinite value isFinite] at encoded
      have same : other.nonFiniteText = d.nonFiniteText := Literal.bare.inj (Except.ok.inj encoded)
      have otherWord := nonFinite_nonFiniteText isFinite
      rw [same, word] at otherWord
      exact congrArg Except.ok (Option.some.inj otherWord).symm

/-! ## Numbers of texts -/

theorem readFloating_nonFinite_iff {text : String} (notFinite : d.isFinite = false) :
    readFloating kind text = .ok d ↔ (Text.trim text, d) ∈ nonFiniteWords := by
  rw [Text.trim, ← nonFinite_eq_some_iff]
  unfold readFloating
  simp only []
  cases word : nonFinite? (trimChars text.toList) with
  | some other => simp
  | none =>
    cases read : ofText? (trimChars text.toList) with
    | none => simp [malformed]
    | some number =>
      have refused (result : Double) : (if result.isFinite = true then .ok result
          else outOfRange (.floating kind) text : Conversion Double) ≠ .ok d := by
        split
        · rename_i isFinite
          rintro ⟨⟩
          rw [notFinite] at isFinite
          cases isFinite
        · exact nofun
      exact iff_of_false (refused _) nofun

/-- A text of a number from the limit on is refused, also where it is rounded
    to a double first. -/
theorem readFloating_of_limit {text : String} {negative : Bool} {q : Rat} (spelled : SpellsDecimal text negative q)
    (reaches : kind.limit ≤ q) : readFloating kind text = outOfRange (.floating kind) text := by
  have read := ofText_of_spells spelled
  have noWord := nonFinite_of_ofText read
  unfold readFloating
  simp only [noWord, read]
  refine if_neg (Bool.not_eq_true _ ▸ ?_)
  cases kind with
  | float => exact Double.not_isFinite_toSingle_ofMagnitude negative reaches
  | double =>
    rw [Double.ofMagnitude_of_limit negative reaches]
    rfl

/-! ## Scalars that are written as infinite -/

theorem floatingValue_nonFinite_iff (notFinite : d.isFinite = false) :
    floatingValue kind s = .ok d ↔
      s.Names d ∨ ∃ i : Int, s = .bigint i ∧ Number.double.limit ≤ |(i : Rat)| ∧ d = .infinite (i < 0) := by
  cases s with
  | number other =>
    constructor
    · rintro ⟨⟩
      exact .inl (.number d)
    · rintro (named | ⟨_, ⟨⟩, -⟩)
      cases named
      rfl
  | bigint i =>
    have infinite (reaches : Number.double.limit ≤ |(i : Rat)|) : Double.ofInt i = .infinite (i < 0) := by
      rw [Double.ofInt_eq_ofMagnitude, Double.ofMagnitude_of_limit _ reaches]
    constructor
    · rintro ⟨⟩
      have reaches : Number.double.limit ≤ |(i : Rat)| := by
        rw [← not_lt, ← Double.isFinite_ofInt_iff, notFinite]
        exact Bool.false_ne_true
      exact .inr ⟨i, rfl, reaches, infinite reaches⟩
    · rintro (named | ⟨_, ⟨⟩, reaches, rfl⟩)
      · cases named
      · exact congrArg Except.ok (infinite reaches)
  | text text =>
    rw [floatingValue, readFloating_nonFinite_iff notFinite]
    constructor
    · exact fun word => .inl (.text word)
    · rintro (named | ⟨_, ⟨⟩, -⟩)
      cases named with
      | text word => exact word
  | _ =>
    refine iff_of_false (by simp [floatingValue, unencodable]) ?_
    rintro (named | ⟨_, ⟨⟩, -⟩)
    cases named

/-! ## Overflow -/

theorem encodeFloating_number_iff (isFinite : d.isFinite = true) :
    encodeFloating kind (.number d) = outOfRange (.floating kind) d.text ↔ kind.limit ≤ |d.value| := by
  have value : floatingValue kind (.number d) = .ok d := rfl
  rcases encodeFloating_finite value isFinite with ⟨below, text, written, -⟩ | ⟨reaches, refused⟩
  · refine iff_of_false ?_ (not_le.mpr below)
    rw [written]
    exact nofun
  · exact iff_of_true refused reaches

/-- An integer from the limit on is refused as long as its double is finite. -/
theorem encodeFloating_bigint {i : Int} (reaches : kind.limit ≤ |(i : Rat)|)
    (below : |(i : Rat)| < Number.double.limit) :
    encodeFloating kind (.bigint i) = outOfRange (.floating kind) (Double.ofInt i).text := by
  cases kind with
  | double => exact absurd below (not_lt.mpr reaches)
  | float =>
    have isFinite := (Double.isFinite_ofInt_iff i).mpr below
    have past : (Double.ofInt i).toSingle.isFinite = false := by
      rw [Double.ofInt_eq_ofMagnitude]
      exact Double.not_isFinite_toSingle_ofMagnitude _ reaches
    have value : floatingValue .float (.bigint i) = .ok (Double.ofInt i) := rfl
    rcases encodeFloating_finite value isFinite with ⟨small, -⟩ | ⟨-, refused⟩
    · rw [(Double.isFinite_toSingle_iff isFinite).mpr small] at past
      cases past
    · exact refused

/-- A scalar is written as a number that is not finite when it is that number,
    a text of its word, or an integer from the limit of doubles on. Below that,
    numbers, integers and numbers of texts from the limit of the type on are out
    of range. -/
theorem non_finite_literals (zone : Calendar.Zone) (kind : FloatKind) :
    (∀ (s : Scalar) (d : Double), d.isFinite = false →
      (encode zone (.floating kind) (.scalar s) = .ok (.bare d.nonFiniteText) ↔
        s.Names d ∨ ∃ i : Int, s = .bigint i ∧ Number.double.limit ≤ |(i : Rat)| ∧ d = .infinite (i < 0))) ∧
    (∀ d : Double, d.isFinite = true →
      (encode zone (.floating kind) (.scalar (.number d)) = outOfRange (.floating kind) d.text ↔
        kind.limit ≤ |d.value|)) ∧
    (∀ i : Int, kind.limit ≤ |(i : Rat)| → |(i : Rat)| < Number.double.limit →
      encode zone (.floating kind) (.scalar (.bigint i)) = outOfRange (.floating kind) (Double.ofInt i).text) ∧
    ∀ text negative q, SpellsDecimal text negative q → kind.limit ≤ q →
      encode zone (.floating kind) (.scalar (.text text)) = outOfRange (.floating kind) text := by
  refine ⟨fun s d notFinite => ?_, fun d => encodeFloating_number_iff, fun i => encodeFloating_bigint, ?_⟩
  · exact (encodeFloating_nonFinite_iff notFinite).trans (floatingValue_nonFinite_iff notFinite)
  · intro text negative q spelled reaches
    exact encodeFloating_of_error (readFloating_of_limit spelled reaches)

theorem single_limit_le : single.limit ≤ 2 ^ (128 : Nat) := by
  refine (limit_lt single).le.trans (le_of_eq ?_)
  rw [← zpow_natCast]
  rfl

/-- A word between blanks, and a number, an integer and a text past the range of
    single precision. -/
theorem past_single_precision :
    encode .utc (.floating .float) (.scalar (.text " -Infinity")) = .ok (.bare "-Infinity") ∧
    encode .utc (.floating .float) (.scalar (.number (Double.ofInt (2 ^ 128)))) =
      outOfRange (.floating .float) (Double.ofInt (2 ^ 128)).text ∧
    encode .utc (.floating .float) (.scalar (.bigint (2 ^ 128))) =
      outOfRange (.floating .float) (Double.ofInt (2 ^ 128)).text ∧
    encode .utc (.floating .float) (.scalar (.text "+1.e39")) = outOfRange (.floating .float) "+1.e39" := by
  obtain ⟨words, numbers, integers, texts⟩ := non_finite_literals .utc .float
  have magnitude : |((2 ^ 128 : Int) : Rat)| = 2 ^ (128 : Nat) := by
    push_cast
    exact abs_of_pos (by positivity)
  have past : FloatKind.limit .float ≤ |((2 ^ 128 : Int) : Rat)| := magnitude ▸ single_limit_le
  have below : |((2 ^ 128 : Int) : Rat)| < Number.double.limit := by
    rw [magnitude, ← zpow_natCast]
    exact (zpow_lt_zpow_right₀ one_lt_two (by decide)).trans_le (le_limit Double.double_digits)
  have isFinite : (Double.ofInt (2 ^ 128)).isFinite = true := by decide +kernel
  have value : (Double.ofInt (2 ^ 128)).value = 2 ^ (128 : Nat) := by decide +kernel
  have spelled : SpellsDecimal "+1.e39" false (1 * 10 ^ (39 : Int)) :=
    ⟨[], ['+'], ['1', '.'], ['e', '3', '9'], [], ['1'], 0, 39, by simp, by simp, .plus,
      @Significand.pointed ['1'] [] (by decide), .present (.inl rfl) .absent (by decide), rfl, by decide +kernel⟩
  refine ⟨(words _ (.infinite true) rfl).mpr (.inl (.text (by decide +kernel))), (numbers _ isFinite).mpr ?_,
    integers _ past below, texts _ _ _ spelled ?_⟩
  · rw [value, abs_of_pos (by positivity)]
    exact single_limit_le
  · exact single_limit_le.trans (by norm_num)

/-- An integer that is no double at all is written as infinite. -/
theorem integer_written_infinite :
    encode .utc (.floating .double) (.scalar (.bigint (2 ^ 1024))) = .ok (.bare "Infinity") ∧
    ¬ ∀ (kind : FloatKind) (s : Scalar) (d : Double), d.isFinite = false →
      encode .utc (.floating kind) (.scalar s) = .ok (.bare d.nonFiniteText) → s.Names d := by
  have magnitude : |((2 ^ 1024 : Int) : Rat)| = (2 : Rat) ^ (1024 : Int) := by
    rw [Int.cast_pow, Int.cast_ofNat, abs_of_pos (by positivity), ← zpow_natCast]
    rfl
  have past : Number.double.limit ≤ |((2 ^ 1024 : Int) : Rat)| := magnitude ▸ (limit_lt Number.double).le
  have positive : Double.infinite false = .infinite (((2 : Int) ^ 1024) < 0) := by
    rw [decide_eq_false (not_lt.mpr (by positivity))]
  have value : floatingValue .double (.bigint (2 ^ 1024)) = .ok (.infinite false) :=
    (floatingValue_nonFinite_iff rfl).mpr (.inr ⟨_, rfl, past, positive⟩)
  have written : encode .utc (.floating .double) (.scalar (.bigint (2 ^ 1024))) = .ok (.bare "Infinity") :=
    encodeFloating_nonFinite value rfl
  refine ⟨written, fun named => ?_⟩
  cases named .double _ (.infinite false) rfl written

end CqlTable
