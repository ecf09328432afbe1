import CqlTable.Proofs.Number.ReadBack

/-!
# Decimal texts: each is read as the double nearest to its value

The grammar of numbers is stated part by part, apart from the reader: a sign,
digits around a point and an exponent (`SpellsDecimal`). A text of it is read as
the double nearest to what it spells, whatever blanks are around it
(`ofText_of_spells`).
-/

namespace CqlTable.Number

open Text

/-! ## The grammar of numbers -/

/-- A sign that may be left out; true for a minus sign. -/
inductive Sign : List Char → Bool → Prop
  | absent : Sign [] false
  | plus : Sign ['+'] false
  | minus : Sign ['-'] true

/-- A nonempty run of digits. -/
def Digits (ds : List Char) : Prop := ds ≠ [] ∧ ∀ c ∈ ds, isDigit c = true

instance (ds : List Char) : Decidable (Digits ds) :=
  decidable_of_iff (ds.isEmpty = false ∧ ds.all isDigit = true) (by simp [Digits])

/-- Digits with at most one point, all of them in a row, and how many stand
    after the point. -/
inductive Significand : List Char → List Char → Nat → Prop
  | whole {ds} (digits : Digits ds) : Significand ds ds 0
  | pointed {whole fraction} (digits : Digits (whole ++ fraction)) :
      Significand (whole ++ '.' :: fraction) (whole ++ fraction) fraction.length

/-- An exponent that may be left out. -/
inductive Exponent : List Char → Int → Prop
  | absent : Exponent [] 0
  | present {mark sign negative ds} (letter : mark = 'e' ∨ mark = 'E') (signed : Sign sign negative)
      (digits : Digits ds) :
      Exponent (mark :: (sign ++ ds)) (if negative then -(numeralValue ds : Int) else (numeralValue ds : Int))

/-- The text is a number with a sign and a magnitude, and blanks around it. -/
def SpellsDecimal (text : String) (negative : Bool) (q : Rat) : Prop :=
  ∃ before sign significand exponent after digits places e,
    (∀ c ∈ before, isBlank c = true) ∧ (∀ c ∈ after, isBlank c = true) ∧
    Sign sign negative ∧ Significand significand digits places ∧ Exponent exponent e ∧
    text.toList = before ++ (sign ++ (significand ++ exponent)) ++ after ∧
    q = numeralValue digits * (10 : Rat) ^ (e - places)

/-! ## Parts of a number -/

variable {negative : Bool}

theorem Sign.takeSign {sign : List Char} (signed : Sign sign negative) {rest : List Char}
    (unsigned : ∀ c ∈ rest.head?, c ≠ '-' ∧ c ≠ '+') : Text.takeSign (sign ++ rest) = (negative, rest) := by
  cases signed with
  | absent => exact takeSign_of_unsigned unsigned
  | plus => rfl
  | minus => rfl

theorem Sign.not_blank {sign : List Char} (signed : Sign sign negative) : ∀ c ∈ sign, isBlank c = false := by
  cases signed with
  | absent => simp
  | plus => exact List.forall_mem_singleton.mpr (by decide)
  | minus => exact List.forall_mem_singleton.mpr (by decide)

theorem ne_sign_of_isDigit {c : Char} (digit : isDigit c = true) : c ≠ '-' ∧ c ≠ '+' := by
  refine ⟨?_, ?_⟩
  · rintro rfl
    exact absurd digit (by decide)
  · rintro rfl
    exact absurd digit (by decide)

theorem Digits.unsigned {ds : List Char} (digits : Digits ds) : ∀ c ∈ ds.head?, c ≠ '-' ∧ c ≠ '+' :=
  fun c head => ne_sign_of_isDigit (digits.2 c (List.mem_of_mem_head? head))

theorem Exponent.part {cs : List Char} {e : Int} (exponent : Exponent cs e) : exponentPart? cs = some e := by
  cases exponent with
  | absent => rfl
  | @present mark sign negative ds letter signed digits =>
    have numeral : isNumeral ds = true := by simpa [isNumeral, digits.1] using digits.2
    rw [exponentPart?, if_pos letter, integerValue?, signed.takeSign digits.unsigned]
    simp only [if_pos numeral]

theorem Exponent.ends {cs : List Char} {e : Int} (exponent : Exponent cs e) :
    ∀ c ∈ cs.head?, isDigit c = false ∧ c ≠ '.' := by
  cases exponent with
  | absent => simp
  | present letter signed digits =>
    rintro _ ⟨⟩
    rcases letter with rfl | rfl <;> decide

theorem Exponent.not_blank {cs : List Char} {e : Int} (exponent : Exponent cs e) : ∀ c ∈ cs, isBlank c = false := by
  cases exponent with
  | absent => simp
  | present letter signed digits =>
    refine List.forall_mem_cons.mpr ⟨?_, List.forall_mem_append.mpr ⟨signed.not_blank, ?_⟩⟩
    · rcases letter with rfl | rfl <;> decide
    · exact fun c inside => not_isBlank_of_isDigit (digits.2 c inside)

/-- The digits of a significand are taken apart at its point. -/
theorem Significand.parts {cs digits tail : List Char} {places : Nat} {e : Int}
    (significand : Significand cs digits places) (exponent : Exponent tail e) :
    ∃ whole fraction, decimalParts? (cs ++ tail) = some (whole, fraction, e) ∧ whole ++ fraction = digits ∧
      fraction.length = places := by
  cases significand with
  | whole ds =>
    refine ⟨_, [], ?_, List.append_nil _, rfl⟩
    rw [decimalParts_whole ds.2 ds.1 exponent.ends, exponent.part]
    rfl
  | @pointed whole fraction ds =>
    obtain ⟨wholeDigits, fractionDigits⟩ := List.forall_mem_append.mp ds.2
    have some : whole ≠ [] ∨ fraction ≠ [] := by
      by_contra none
      simp only [ne_eq, not_or, not_not] at none
      exact ds.1 (by simp [none])
    refine ⟨whole, fraction, ?_, rfl, rfl⟩
    rw [List.append_assoc, List.cons_append,
      decimalParts_pointed wholeDigits some fractionDigits fun c head => (exponent.ends c head).1, exponent.part]
    rfl

theorem Significand.chars {cs digits : List Char} {places : Nat} (significand : Significand cs digits places) :
    cs ≠ [] ∧ ∀ c ∈ cs, isDigit c = true ∨ c = '.' := by
  cases significand with
  | whole ds => exact ⟨ds.1, fun c inside => .inl (ds.2 c inside)⟩
  | pointed ds =>
    obtain ⟨wholeDigits, fractionDigits⟩ := List.forall_mem_append.mp ds.2
    refine ⟨by simp, List.forall_mem_append.mpr ⟨?_, List.forall_mem_cons.mpr ⟨.inr rfl, ?_⟩⟩⟩
    · exact fun c inside => .inl (wholeDigits c inside)
    · exact fun c inside => .inl (fractionDigits c inside)

theorem Significand.unsigned {cs digits : List Char} {places : Nat} (significand : Significand cs digits places)
    (tail : List Char) : ∀ c ∈ (cs ++ tail).head?, c ≠ '-' ∧ c ≠ '+' := by
  obtain ⟨nonempty, chars⟩ := significand.chars
  intro c head
  rw [List.head?_append_of_ne_nil _ nonempty] at head
  rcases chars c (List.mem_of_mem_head? head) with digit | rfl
  · exact ne_sign_of_isDigit digit
  · decide

theorem Significand.not_blank {cs digits : List Char} {places : Nat} (significand : Significand cs digits places) :
    ∀ c ∈ cs, isBlank c = false := by
  intro c inside
  rcases significand.chars.2 c inside with digit | rfl
  · exact not_isBlank_of_isDigit digit
  · decide

/-- A number of the grammar is read as the double nearest to it. -/
theorem ofText_of_spells {text : String} {q : Rat} (spelled : SpellsDecimal text negative q) :
    ofText? (trimChars text.toList) = some (Double.ofMagnitude negative q) := by
  obtain ⟨before, sign, significand, exponent, after, digits, places, e, blankBefore, blankAfter, signed, isSignificand,
    isExponent, spelling, rfl⟩ := spelled
  obtain ⟨whole, fraction, parts, rfl, rfl⟩ := isSignificand.parts isExponent
  have inside : ∀ c ∈ sign ++ (significand ++ exponent), isBlank c = false :=
    List.forall_mem_append.mpr ⟨signed.not_blank,
      List.forall_mem_append.mpr ⟨isSignificand.not_blank, isExponent.not_blank⟩⟩
  have nonempty : sign ++ (significand ++ exponent) ≠ [] := by simp [isSignificand.chars.1]
  rw [spelling, trimChars_between blankBefore inside nonempty blankAfter, ofText?,
    signed.takeSign (isSignificand.unsigned exponent)]
  simp only [parts, Option.map_some, ofParts]
  rw [Double.ofDecimal_eq_ofMagnitude]

end CqlTable.Number
