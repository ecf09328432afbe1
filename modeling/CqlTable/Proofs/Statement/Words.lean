import CqlTable.Proofs.Number.Grammar
import CqlTable.Proofs.Statement.Scanner

/-!
# Words: the texts of numbers

However a number is written, its text is not empty and has only characters of
words: it ends where it is meant to and begins no string.
-/

namespace CqlTable

open Text Number

/-! ## Words from parts -/

theorem isTokenChar_of_isDigit {c : Char} (digit : isDigit c = true) : isTokenChar c = true := by
  unfold isDigit at digit
  simp only [isTokenChar, isNameChar, digit, Bool.or_true, Bool.true_or]

theorem not_isBlank_of_isTokenChar {c : Char} (token : isTokenChar c = true) : isBlank c = false := by
  have visible : 33 ≤ c.toNat ∧ c.toNat ≤ 126 := by
    simp only [isTokenChar, isNameChar, isNameStart, Bool.or_eq_true, Bool.and_eq_true, decide_eq_true_eq, beq_iff_eq,
      Char.le_def, UInt32.le_iff_toNat_le] at token
    rcases token with (((((capital | small) | rfl) | digit) | rfl) | rfl) | rfl
    · exact ⟨le_trans (by decide) capital.1, le_trans capital.2 (by decide)⟩
    · exact ⟨le_trans (by decide) small.1, le_trans small.2 (by decide)⟩
    · decide
    · exact ⟨le_trans (by decide) digit.1, le_trans digit.2 (by decide)⟩
    · decide
    · decide
    · decide
  simp [isBlank]
  omega

theorem IsWord.append {cs after : List Char} (word : IsWord cs) (all : ∀ c ∈ after, isTokenChar c = true) :
    IsWord (cs ++ after) := by
  obtain ⟨nonempty, inside⟩ := word
  exact ⟨by simp [nonempty], List.forall_mem_append.mpr ⟨inside, all⟩⟩

theorem IsWord.after {before cs : List Char} (word : IsWord cs) (all : ∀ c ∈ before, isTokenChar c = true) :
    IsWord (before ++ cs) := by
  obtain ⟨nonempty, inside⟩ := word
  exact ⟨by simp [nonempty], List.forall_mem_append.mpr ⟨all, inside⟩⟩

theorem IsWord.cons {cs : List Char} {c : Char} (isToken : isTokenChar c = true)
    (all : ∀ d ∈ cs, isTokenChar d = true) : IsWord (c :: cs) :=
  ⟨by simp, List.forall_mem_cons.mpr ⟨isToken, all⟩⟩

theorem isWord_numeralChars (n : Nat) : IsWord (numeralChars n) :=
  ⟨numeralChars_ne_nil n, fun c inside => isTokenChar_of_isDigit (numeralChars_digits n c inside)⟩

theorem zeros_token (count : Nat) : ∀ c ∈ List.replicate count '0', isTokenChar c = true := by
  intro c inside
  rw [List.eq_of_mem_replicate inside]
  decide

theorem isWord_padZeros (width : Nat) {cs : List Char} (word : IsWord cs) : IsWord (padZeros width cs) :=
  word.after (zeros_token _)

theorem isWord_integer (i : Int) : IsWord (Text.integer i).toList := by
  rw [Text.integer, String.toList_ofList]
  cases i with
  | ofNat n => exact isWord_numeralChars n
  | negSucc n => exact .cons (by decide) (isWord_numeralChars (n + 1)).2

/-! ## Numbers -/

theorem sign_token {sign : List Char} {negative : Bool} (signed : Sign sign negative) :
    ∀ c ∈ sign, isTokenChar c = true := by
  cases signed with
  | absent => simp
  | plus => exact List.forall_mem_singleton.mpr (by decide)
  | minus => exact List.forall_mem_singleton.mpr (by decide)

theorem exponent_token {cs : List Char} {e : Int} (exponent : Exponent cs e) : ∀ c ∈ cs, isTokenChar c = true := by
  cases exponent with
  | absent => simp
  | present letter signed digits =>
    refine List.forall_mem_cons.mpr ⟨?_, List.forall_mem_append.mpr ⟨sign_token signed, ?_⟩⟩
    · rcases letter with rfl | rfl <;> decide
    · exact fun c inside => isTokenChar_of_isDigit (digits.2 c inside)

theorem isWord_of_isNumber {cs : List Char} (number : IsNumber cs) : IsWord cs := by
  obtain ⟨signed, significand, exponent⟩ := number
  obtain ⟨nonempty, chars⟩ := significand.chars
  have word : IsWord _ := ⟨nonempty, fun c inside => by
    rcases chars c inside with digit | rfl
    · exact isTokenChar_of_isDigit digit
    · decide⟩
  exact (word.append (exponent_token exponent)).after (sign_token signed)

theorem isWord_nonFiniteText (d : Double) : IsWord d.nonFiniteText.toList := by
  unfold Double.nonFiniteText
  split
  · decide
  · split <;> decide

/-- The text of a double is a word. -/
theorem isWord_text (d : Double) : IsWord d.text.toList := by
  cases d with
  | nan => exact isWord_nonFiniteText .nan
  | infinite negative => exact isWord_nonFiniteText (.infinite negative)
  | finite negative mantissa exponent fits => exact isWord_of_isNumber (Double.isNumber_text rfl)

/-- The text of a double with a count of significant digits is a word. -/
theorem isWord_generalText {count : Nat} (counted : count ≤ 21) (d : Double) :
    IsWord (d.generalText count).toList := by
  cases d with
  | nan => exact isWord_nonFiniteText .nan
  | infinite negative => exact isWord_nonFiniteText (.infinite negative)
  | finite negative mantissa exponent fits => exact isWord_of_isNumber (Double.isNumber_generalText counted rfl)

end CqlTable
