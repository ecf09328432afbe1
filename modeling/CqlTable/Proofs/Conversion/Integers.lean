import CqlTable.Proofs.Conversion.Cells

/-!
# Integers: one literal whatever stands for them

An integer is given as itself, as a number or as any text of it
(`Scalar.IsInteger`). Each of these is written as the same digits if the integer
has the width of the column, and each is out of range otherwise; the digits are
read as the integer again (`integers_encoded`).
-/

namespace CqlTable

open Text

variable {kind : IntegerKind} {s : Scalar} {n : Int}

/-! ## Integers and their digits -/

/-- The scalar is the integer, a number that is the integer, or a text that
    spells it. -/
inductive Scalar.IsInteger : Scalar → Int → Prop
  | bigint (n : Int) : IsInteger (.bigint n) n
  | number {d : Double} {n : Int} (isFinite : d.isFinite = true) (value : d.value = n) : IsInteger (.number d) n
  | text {text : String} {n : Int} (spelled : SpellsInteger text n) : IsInteger (.text text) n

/-- The integer is one of the two's complement integers of the width. -/
def IntegerKind.InRange (kind : IntegerKind) (n : Int) : Prop :=
  -(2 : Int) ^ (kind.bits - 1) ≤ n ∧ n < (2 : Int) ^ (kind.bits - 1)

instance (kind : IntegerKind) (n : Int) : Decidable (kind.InRange n) := inferInstanceAs (Decidable (_ ∧ _))

/-- The text is digits without zeros in front, and a minus sign before those of
    a number below zero. -/
def IsCanonical (text : String) (n : Int) : Prop :=
  ∃ ds, text.toList = (if n < 0 then ['-'] else []) ++ ds ∧ ds ≠ [] ∧ (∀ c ∈ ds, isDigit c = true) ∧
    numeralValue ds = n.natAbs ∧ (ds.head? = some '0' → ds = ['0'])

theorem holds_iff : kind.holds n = true ↔ kind.InRange n := by
  rw [IntegerKind.holds, Bool.and_eq_true, decide_eq_true_eq, decide_eq_true_eq, IntegerKind.InRange]
  refine and_congr ?_ ?_
  · cases kind <;> exact Iff.rfl
  · cases kind <;> exact Int.le_sub_one_iff

theorem isCanonical_integer (n : Int) : IsCanonical (Text.integer n) n := by
  refine ⟨numeralChars n.natAbs, ?_, numeralChars_ne_nil _, numeralChars_digits _, numeralValue_numeralChars _, ?_⟩
  · rw [Text.integer, String.toList_ofList]
    cases n with
    | ofNat n =>
      have notNegative : ¬ Int.ofNat n < 0 := Int.not_lt.mpr (Int.natCast_nonneg n)
      rw [if_neg notNegative]
      rfl
    | negSucc n =>
      rw [if_pos (Int.negSucc_lt_zero n)]
      rfl
  · intro zero
    by_cases positive : 0 < n.natAbs
    · exact absurd zero (numeralChars_head positive)
    · rw [show n.natAbs = 0 from by omega, numeralChars]
      rfl

/-! ## What is written and what is read -/

/-- The input that an error shows: a text as it is given, another scalar by its
    digits. -/
def Scalar.integerInput (s : Scalar) (n : Int) : String :=
  match s with
  | .text given => given
  | _ => Text.integer n

/-- Whatever stands for an integer is written as its digits or refused. -/
theorem encodeInteger_of_isInteger (isInteger : s.IsInteger n) :
    encodeInteger kind s = if kind.InRange n then .ok (.bare (Text.integer n))
      else outOfRange (.integer kind) (s.integerInput n) := by
  have literal : integerLiteral kind n = if kind.InRange n then .ok (.bare (Text.integer n))
      else outOfRange (.integer kind) (Text.integer n) := by
    simp only [integerLiteral, holds_iff]
  cases isInteger with
  | bigint n => exact literal
  | number isFinite value =>
    have whole := Double.toInt_eq_some_iff.mpr ⟨isFinite, value⟩
    simp only [encodeInteger, whole]
    exact literal
  | text spelled =>
    simp only [encodeInteger, readInteger, integerValue_spelled spelled, holds_iff, Scalar.integerInput]
    split <;> rfl

theorem encodeInteger_of_unspelled {text : String} (unspelled : ∀ n, ¬ SpellsInteger text n) :
    encodeInteger kind (.text text) = malformed (.integer kind) text := by
  cases read : integerValue? (trimChars text.toList) with
  | none =>
    simp only [encodeInteger, readInteger, read]
    rfl
  | some n => exact absurd (spells_of_integerValue read) (unspelled n)

/-- What the digits of an integer are read as is the integer. -/
theorem isInteger_scalar (inRange : kind.InRange n) : (kind.scalar n).IsInteger n := by
  rcases narrow_bounds kind with rfl | narrow
  · exact .bigint n
  · have bounds : kind.least ≤ n ∧ n ≤ kind.greatest := by simpa [IntegerKind.holds] using holds_iff.mpr inRange
    have small : n.natAbs ≤ Double.greatestExact := by
      unfold Double.greatestExact
      omega
    obtain ⟨isFinite, value⟩ := Double.value_ofInt small
    cases kind with
    | bigint => exact .bigint n
    | _ => exact .number isFinite value

/-- Whatever stands for an integer of the width is written as the same digits,
    without zeros in front or a sign that they do not need, and these are read as
    the integer; what stands for another integer is out of range, and a text of
    no integer is malformed. -/
theorem integers_encoded (zone : Calendar.Zone) (kind : IntegerKind) :
    (∀ s n, Scalar.IsInteger s n → encode zone (.integer kind) (.scalar s) =
      if kind.InRange n then .ok (.bare (Text.integer n)) else outOfRange (.integer kind) (s.integerInput n)) ∧
    (∀ n, IsCanonical (Text.integer n) n) ∧
    (∀ n, kind.InRange n → ∃ s, decode (.integer kind) (Text.integer n) = .ok (some s) ∧ s.IsInteger n) ∧
    ∀ text, (∀ n, ¬ SpellsInteger text n) →
      encode zone (.integer kind) (.scalar (.text text)) = malformed (.integer kind) text := by
  refine ⟨fun s n => encodeInteger_of_isInteger, isCanonical_integer, fun n inRange => ?_, fun text =>
    encodeInteger_of_unspelled⟩
  refine ⟨kind.scalar n, ?_, isInteger_scalar inRange⟩
  rw [decode_integer, if_pos (holds_iff.mpr inRange)]

/-- The least integer of a width in three forms, the first one above it, and a
    text of a number that is no text of an integer. -/
theorem tinyint_bounds :
    encode .utc (.integer .tinyint) (.scalar (.bigint (-128))) = .ok (.bare "-128") ∧
    encode .utc (.integer .tinyint) (.scalar (.number (Double.ofInt (-128)))) = .ok (.bare "-128") ∧
    encode .utc (.integer .tinyint) (.scalar (.text " -0128\n")) = .ok (.bare "-128") ∧
    encode .utc (.integer .tinyint) (.scalar (.text "+128")) = outOfRange (.integer .tinyint) "+128" ∧
    (∃ s, decode (.integer .tinyint) (Text.integer (-128)) = .ok (some s) ∧ s.IsInteger (-128)) ∧
    encode .utc (.integer .tinyint) (.scalar (.text "1.0")) = malformed (.integer .tinyint) "1.0" := by
  obtain ⟨encodes, -, decodes, malforms⟩ := integers_encoded .utc .tinyint
  have least : IntegerKind.InRange .tinyint (-128) := by decide
  have past : ¬ IntegerKind.InRange .tinyint 128 := by decide
  have text : Text.integer (-128) = "-128" := by decide +kernel
  have number : Scalar.IsInteger (.number (Double.ofInt (-128))) (-128) := by
    obtain ⟨isFinite, value⟩ := Double.value_ofInt (i := -128) (by decide)
    exact .number isFinite value
  have padded : SpellsInteger " -0128\n" (-128) := integerValue_eq_some_iff.mp (by decide +kernel)
  have signed : SpellsInteger "+128" 128 := integerValue_eq_some_iff.mp (by decide +kernel)
  have unspelled (n : Int) : ¬ SpellsInteger "1.0" n := by
    rw [← integerValue_eq_some_iff, show integerValue? (trimChars "1.0".toList) = none from by decide +kernel]
    exact nofun
  rw [← text]
  exact ⟨(encodes _ _ (.bigint _)).trans (if_pos least), (encodes _ _ number).trans (if_pos least),
    (encodes _ _ (.text padded)).trans (if_pos least), (encodes _ _ (.text signed)).trans (if_neg past),
    decodes _ least, malforms _ unspelled⟩

end CqlTable
