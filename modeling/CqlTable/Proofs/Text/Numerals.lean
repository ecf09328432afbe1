import CqlTable.Text.Blank
import CqlTable.Text.Numeral
import Mathlib.Data.List.Basic
import Mathlib.Data.List.Induction
import Mathlib.Data.List.TakeWhile

/-!
# Numerals: digits that are written and read again

The digits of a number spell it (`numeralValue_numeralChars`), and all digits
are zeros in front of those of the number that they spell (`exists_zeros`). A
text is read as an integer exactly when it spells it, be it with a sign, with
zeros or between blanks (`integerValue_eq_some_iff`).
-/

namespace CqlTable.Text

/-! ## Digits -/

theorem toNat_ofNat {n : Nat} (low : n < 0xD800) : (Char.ofNat n).toNat = n := by
  have valid : n.isValidChar := Or.inl low
  rw [Char.ofNat, dif_pos valid]
  rfl

theorem isDigit_iff (c : Char) : isDigit c = true ↔ 48 ≤ c.toNat ∧ c.toNat ≤ 57 := by
  simp only [isDigit, Bool.and_eq_true, decide_eq_true_eq, Char.le_def, UInt32.le_iff_toNat_le]
  exact Iff.rfl

theorem toNat_digitChar {n : Nat} (small : n < 10) : (digitChar n).toNat = 48 + n :=
  toNat_ofNat (by omega)

theorem isDigit_digitChar {n : Nat} (small : n < 10) : isDigit (digitChar n) = true := by
  rw [isDigit_iff, toNat_digitChar small]
  omega

theorem digitValue_digitChar {n : Nat} (small : n < 10) : digitValue (digitChar n) = n := by
  rw [digitValue, toNat_digitChar small]
  omega

theorem not_isBlank_of_isDigit {c : Char} (digit : isDigit c = true) : isBlank c = false := by
  rw [isDigit_iff] at digit
  simp [isBlank]
  omega

/-! ## Numbers as digits -/

theorem numeralChars_digits (n : Nat) : ∀ c ∈ numeralChars n, isDigit c = true := by
  induction n using Nat.strongRecOn with
  | ind n ih =>
    rw [numeralChars]
    by_cases small : n < 10
    · simpa [small] using isDigit_digitChar small
    · intro c inside
      simp only [small, ↓reduceIte, List.mem_append, List.mem_singleton] at inside
      rcases inside with inside | rfl
      · exact ih (n / 10) (by omega) c inside
      · exact isDigit_digitChar (by omega)

theorem numeralChars_ne_nil (n : Nat) : numeralChars n ≠ [] := by
  rw [numeralChars]
  by_cases small : n < 10 <;> simp [small]

theorem numeralValue_append_digit (ds : List Char) (c : Char) :
    numeralValue (ds ++ [c]) = 10 * numeralValue ds + digitValue c := by
  simp [numeralValue]

/-- The digits of a number spell it. -/
theorem numeralValue_numeralChars (n : Nat) : numeralValue (numeralChars n) = n := by
  induction n using Nat.strongRecOn with
  | ind n ih =>
    rw [numeralChars]
    by_cases small : n < 10
    · simp [small, numeralValue, digitValue_digitChar small]
    · rw [if_neg small, numeralValue_append_digit, ih (n / 10) (by omega),
        digitValue_digitChar (by omega)]
      omega

theorem numeralValue_zeros (count : Nat) (ds : List Char) :
    numeralValue (List.replicate count '0' ++ ds) = numeralValue ds := by
  induction count with
  | zero => rfl
  | succ count ih =>
    rw [List.replicate_succ, List.cons_append]
    exact ih

theorem digitChar_digitValue {c : Char} (digit : isDigit c = true) : digitChar (digitValue c) = c := by
  have low := (isDigit_iff c).mp digit
  rw [digitChar, digitValue, show 48 + (c.toNat - 48) = c.toNat from by omega, Char.ofNat_toNat]

theorem digitValue_lt {c : Char} (digit : isDigit c = true) : digitValue c < 10 := by
  have low := (isDigit_iff c).mp digit
  rw [digitValue]
  omega

/-- A number above zero is written without zeros in front. -/
theorem numeralChars_head {n : Nat} (positive : 0 < n) : (numeralChars n).head? ≠ some '0' := by
  induction n using Nat.strongRecOn with
  | ind n ih =>
    rw [numeralChars]
    by_cases small : n < 10
    · rw [if_pos small, List.head?_cons, ne_eq, Option.some.injEq]
      intro zero
      have value := digitValue_digitChar small
      rw [zero] at value
      exact absurd value (Nat.ne_of_lt positive)
    · rw [if_neg small, List.head?_append_of_ne_nil _ (numeralChars_ne_nil _)]
      exact ih (n / 10) (by omega) (by omega)

/-- Digits are zeros in front of the digits of the number that they spell. -/
theorem exists_zeros {ds : List Char} (digits : ∀ c ∈ ds, isDigit c = true) (nonempty : ds ≠ []) :
    ∃ zeros, ds = List.replicate zeros '0' ++ numeralChars (numeralValue ds) := by
  induction ds using List.reverseRecOn with
  | nil => exact absurd rfl nonempty
  | append_singleton front c ih =>
    obtain ⟨frontDigits, last⟩ := List.forall_mem_append.mp digits
    have digit := last c (by simp)
    have below := digitValue_lt digit
    have single : numeralChars (digitValue c) = [c] := by
      rw [numeralChars, if_pos below, digitChar_digitValue digit]
    rw [numeralValue_append_digit]
    by_cases empty : front = []
    · subst empty
      exact ⟨0, by simpa [numeralValue] using single.symm⟩
    · obtain ⟨zeros, split⟩ := ih frontDigits empty
      by_cases zero : numeralValue front = 0
      · refine ⟨zeros + 1, ?_⟩
        rw [zero, Nat.mul_zero, Nat.zero_add, single, List.replicate_succ']
        rw [zero, show numeralChars 0 = ['0'] from by rw [numeralChars]; rfl] at split
        exact congrArg (· ++ [c]) split
      · refine ⟨zeros, ?_⟩
        have quotient : (10 * numeralValue front + digitValue c) / 10 = numeralValue front := by omega
        have rest : (10 * numeralValue front + digitValue c) % 10 = digitValue c := by omega
        rw [numeralChars, if_neg (by omega), quotient, rest, digitChar_digitValue digit, ← List.append_assoc, ← split]

theorem zeros_digits {ds : List Char} (digits : ∀ c ∈ ds, isDigit c = true) (count : Nat) :
    ∀ c ∈ List.replicate count '0' ++ ds, isDigit c = true := by
  intro c inside
  rcases List.mem_append.mp inside with zero | inside
  · rw [List.eq_of_mem_replicate zero]
    decide
  · exact digits c inside

/-- The digits of a number with zeros in front. -/
def padDigits (width n : Nat) : List Char := padZeros width (numeralChars n)

theorem padDigits_digits (width n : Nat) : ∀ c ∈ padDigits width n, isDigit c = true :=
  zeros_digits (numeralChars_digits n) _

theorem padDigits_ne_nil (width n : Nat) : padDigits width n ≠ [] := by
  simp [padDigits, padZeros, numeralChars_ne_nil]

theorem length_padDigits (width n : Nat) : (padDigits width n).length = max width (numeralChars n).length := by
  simp [padDigits, padZeros]
  omega

theorem numeralValue_padDigits (width n : Nat) : numeralValue (padDigits width n) = n := by
  rw [padDigits, padZeros, numeralValue_zeros, numeralValue_numeralChars]

/-- The longest run of digits ends where something else begins. -/
theorem takeDigits_append {ds rest : List Char} (digits : ∀ c ∈ ds, isDigit c = true)
    (ends : ∀ c ∈ rest.head?, isDigit c = false) : takeDigits (ds ++ rest) = (ds, rest) := by
  have stops : rest.takeWhile isDigit = [] ∧ rest.dropWhile isDigit = rest := by
    cases rest with
    | nil => exact ⟨rfl, rfl⟩
    | cons c rest => simp [ends c rfl]
  simp [takeDigits, List.takeWhile_append_of_pos digits, List.dropWhile_append_of_pos digits, stops]

theorem takeDigits_eq {cs ds rest : List Char} (taken : takeDigits cs = (ds, rest)) :
    cs = ds ++ rest ∧ ∀ c ∈ ds, isDigit c = true := by
  cases taken
  exact ⟨List.takeWhile_append_dropWhile.symm, fun c inside => List.mem_takeWhile_imp inside⟩

/-! ## Blanks around a text -/

theorem dropWhile_append_of_none {p : Char → Bool} {cs after : List Char} (none : ∀ c ∈ cs, p c = false)
    (nonempty : cs ≠ []) : (cs ++ after).dropWhile p = cs ++ after := by
  cases cs with
  | nil => exact absurd rfl nonempty
  | cons c rest => simp [none c (by simp)]

/-- Blanks around a text without blanks are taken off. -/
theorem trimChars_between {before cs after : List Char} (blankBefore : ∀ c ∈ before, isBlank c = true)
    (inside : ∀ c ∈ cs, isBlank c = false) (nonempty : cs ≠ [])
    (blankAfter : ∀ c ∈ after, isBlank c = true) : trimChars (before ++ cs ++ after) = cs := by
  have front : (before ++ cs ++ after).dropWhile isBlank = cs ++ after := by
    rw [List.append_assoc, List.dropWhile_append_of_pos blankBefore,
      dropWhile_append_of_none inside nonempty]
  have kept : (cs.reverse ++ []).dropWhile isBlank = cs.reverse ++ [] :=
    dropWhile_append_of_none (by simpa using inside) (by simpa using nonempty)
  have back : (cs ++ after).reverse.dropWhile isBlank = cs.reverse := by
    rw [List.reverse_append, List.dropWhile_append_of_pos (by simpa using blankAfter)]
    simpa using kept
  rw [trimChars, trimEndChars, front, back, List.reverse_reverse]

theorem trimChars_of_no_blanks {cs : List Char} (inside : ∀ c ∈ cs, isBlank c = false) :
    trimChars cs = cs := by
  by_cases empty : cs = []
  · subst empty
    rfl
  · have whole : trimChars ([] ++ cs ++ []) = cs := trimChars_between (by simp) inside empty (by simp)
    simpa using whole

/-- A text is what is left of it when it is trimmed, between blanks. -/
theorem trimChars_split (cs : List Char) : ∃ before after, cs = before ++ trimChars cs ++ after ∧
    (∀ c ∈ before, isBlank c = true) ∧ ∀ c ∈ after, isBlank c = true := by
  have front := List.takeWhile_append_dropWhile (p := isBlank) (l := cs)
  have back : cs.dropWhile isBlank = trimChars cs ++ ((cs.dropWhile isBlank).reverse.takeWhile isBlank).reverse := by
    rw [trimChars, trimEndChars, ← List.reverse_append, List.takeWhile_append_dropWhile, List.reverse_reverse]
  refine ⟨cs.takeWhile isBlank, ((cs.dropWhile isBlank).reverse.takeWhile isBlank).reverse, ?_, ?_, ?_⟩
  · rw [List.append_assoc, ← back, front]
  · exact fun c inside => List.mem_takeWhile_imp inside
  · exact fun c inside => List.mem_takeWhile_imp (List.mem_reverse.mp inside)

/-! ## Integers as text -/

/-- The text spells an integer: zeros may stand in front of its digits, then a
    sign that agrees with it, and blanks on both sides. -/
def SpellsInteger (text : String) (i : Int) : Prop :=
  ∃ (before sign after : List Char) (zeros : Nat),
    (∀ c ∈ before, isBlank c = true) ∧ (∀ c ∈ after, isBlank c = true) ∧
    ((sign = ['-'] ∧ i ≤ 0) ∨ ((sign = [] ∨ sign = ['+']) ∧ 0 ≤ i)) ∧
    text.toList = before ++ (sign ++ (List.replicate zeros '0' ++ numeralChars i.natAbs)) ++ after

theorem takeSign_of_unsigned {cs : List Char} (unsigned : ∀ c ∈ cs.head?, c ≠ '-' ∧ c ≠ '+') :
    takeSign cs = (false, cs) := by
  cases cs with
  | nil => rfl
  | cons c rest =>
    obtain ⟨notMinus, notPlus⟩ := unsigned c rfl
    rw [takeSign]
    · rintro _ ⟨⟩
      exact notMinus rfl
    · rintro _ ⟨⟩
      exact notPlus rfl

theorem takeSign_of_digit {cs : List Char} (digit : ∀ c ∈ cs.head?, isDigit c = true) : takeSign cs = (false, cs) := by
  refine takeSign_of_unsigned fun c head => ⟨?_, ?_⟩
  · rintro rfl
    exact absurd (digit _ head) (by decide)
  · rintro rfl
    exact absurd (digit _ head) (by decide)

theorem takeSign_digits {ds : List Char} (digits : ∀ c ∈ ds, isDigit c = true) :
    takeSign ds = (false, ds) :=
  takeSign_of_digit fun c head => digits c (List.mem_of_mem_head? head)

theorem integerValue_signed {sign ds : List Char} {i : Int} (digits : ∀ c ∈ ds, isDigit c = true)
    (nonempty : ds ≠ []) (value : numeralValue ds = i.natAbs)
    (agrees : (sign = ['-'] ∧ i ≤ 0) ∨ ((sign = [] ∨ sign = ['+']) ∧ 0 ≤ i)) :
    integerValue? (sign ++ ds) = some i := by
  have numeral : isNumeral ds = true := by simpa [isNumeral, nonempty] using digits
  rcases agrees with ⟨rfl, negative⟩ | ⟨rfl | rfl, positive⟩
  · have signed : takeSign (['-'] ++ ds) = (true, ds) := rfl
    simp only [integerValue?, signed, numeral, value, ↓reduceIte, Option.some.injEq]
    omega
  · simp only [List.nil_append, integerValue?, takeSign_digits digits, numeral, value, ↓reduceIte,
      Option.some.injEq, Bool.false_eq_true]
    omega
  · have signed : takeSign (['+'] ++ ds) = (false, ds) := rfl
    simp only [integerValue?, signed, numeral, value, ↓reduceIte, Option.some.injEq, Bool.false_eq_true]
    omega

theorem signed_no_blanks {sign ds : List Char} {i : Int} (digits : ∀ c ∈ ds, isDigit c = true)
    (agrees : (sign = ['-'] ∧ i ≤ 0) ∨ ((sign = [] ∨ sign = ['+']) ∧ 0 ≤ i)) :
    ∀ c ∈ sign ++ ds, isBlank c = false := by
  intro c inside
  rcases List.mem_append.mp inside with inside | inside
  · rcases agrees with ⟨rfl, _⟩ | ⟨rfl | rfl, _⟩ <;> simp at inside <;> subst inside <;> decide
  · exact not_isBlank_of_isDigit (digits c inside)

/-- A text that spells an integer is read as it. -/
theorem integerValue_spelled {text : String} {i : Int} (spelled : SpellsInteger text i) :
    integerValue? (trimChars text.toList) = some i := by
  obtain ⟨before, sign, after, zeros, blankBefore, blankAfter, agrees, spelling⟩ := spelled
  have digits := zeros_digits (numeralChars_digits i.natAbs) zeros
  have nonempty : List.replicate zeros '0' ++ numeralChars i.natAbs ≠ [] := by
    simp [numeralChars_ne_nil]
  have value : numeralValue (List.replicate zeros '0' ++ numeralChars i.natAbs) = i.natAbs := by
    rw [numeralValue_zeros, numeralValue_numeralChars]
  rw [spelling, trimChars_between blankBefore (signed_no_blanks digits agrees) (by simp [nonempty])
    blankAfter]
  exact integerValue_signed digits nonempty value agrees

theorem takeSign_split (cs : List Char) : ∃ sign, cs = sign ++ (takeSign cs).2 ∧
    ((sign = ['-'] ∧ (takeSign cs).1 = true) ∨ ((sign = [] ∨ sign = ['+']) ∧ (takeSign cs).1 = false)) := by
  unfold takeSign
  split
  · exact ⟨['-'], rfl, .inl ⟨rfl, rfl⟩⟩
  · exact ⟨['+'], rfl, .inr ⟨.inr rfl, rfl⟩⟩
  · exact ⟨[], rfl, .inr ⟨.inl rfl, rfl⟩⟩

/-- A text that is read as an integer spells it. -/
theorem spells_of_integerValue {text : String} {i : Int} (read : integerValue? (trimChars text.toList) = some i) :
    SpellsInteger text i := by
  obtain ⟨before, after, spelling, blankBefore, blankAfter⟩ := trimChars_split text.toList
  generalize trimChars text.toList = cs at read spelling
  obtain ⟨sign, signSplit, agrees⟩ := takeSign_split cs
  unfold integerValue? at read
  simp only [] at read
  split at read
  · rename_i numeral
    obtain ⟨nonempty, digits⟩ : (takeSign cs).2 ≠ [] ∧ ∀ c ∈ (takeSign cs).2, isDigit c = true := by
      simpa [isNumeral] using numeral
    obtain ⟨zeros, split⟩ := exists_zeros digits nonempty
    have magnitude : numeralValue (takeSign cs).2 = i.natAbs := by
      cases negative : (takeSign cs).1 <;> simp [negative] at read <;> omega
    refine ⟨before, sign, after, zeros, blankBefore, blankAfter, ?_, ?_⟩
    · rcases agrees with ⟨minus, negative⟩ | ⟨plain, negative⟩
      · simp only [negative, if_true, Option.some.injEq] at read
        exact .inl ⟨minus, by omega⟩
      · simp only [negative, Bool.false_eq_true, if_false, Option.some.injEq] at read
        exact .inr ⟨plain, by omega⟩
    · rw [← magnitude, ← split, ← signSplit]
      exact spelling
  · cases read

theorem integerValue_eq_some_iff {text : String} {i : Int} :
    integerValue? (trimChars text.toList) = some i ↔ SpellsInteger text i :=
  ⟨spells_of_integerValue, integerValue_spelled⟩

/-- The text that an integer is written as spells it. -/
theorem spells_integer (i : Int) : SpellsInteger (integer i) i := by
  cases i with
  | ofNat n => exact ⟨[], [], [], 0, by simp, by simp, by simp, by simp [integer, integerChars]⟩
  | negSucc n =>
    refine ⟨[], ['-'], [], 0, by simp, by simp, Or.inl ⟨rfl, by omega⟩, ?_⟩
    have magnitude : (Int.negSucc n).natAbs = n + 1 := rfl
    simp [integer, integerChars, magnitude]

theorem integerValue_integer (i : Int) : integerValue? (trimChars (integer i).toList) = some i :=
  integerValue_spelled (spells_integer i)

theorem not_null_of_integer {text : String} {i : Int} (read : integerValue? (trimChars text.toList) = some i) :
    ¬ (text = "NULL" ∨ text = "") := by
  rintro (rfl | rfl)
  · rw [show integerValue? (trimChars "NULL".toList) = none from by decide] at read
    cases read
  · rw [show integerValue? (trimChars "".toList) = none from by decide] at read
    cases read

end CqlTable.Text
