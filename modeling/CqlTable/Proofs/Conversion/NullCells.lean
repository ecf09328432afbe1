import CqlTable.Cell
import CqlTable.Proofs.Conversion.Null

/-!
# Driver cells that are null

The text of a value of the client stands for null when the value is null, when
it is a text that stands for null itself, and when it is a duration without any
part, whose text is empty (`marksNull_format_iff`).
-/

namespace CqlTable

open Text Calendar

/-! ## Texts put together -/

/-- The text is empty or begins unlike the word for null. -/
def EmptyOrUnlike (s : String) : Prop := s = "" ∨ BeginsUnlike s.toList

theorem EmptyOrUnlike.append {a b : String} (first : EmptyOrUnlike a) (second : EmptyOrUnlike b) :
    EmptyOrUnlike (a ++ b) := by
  rcases first with rfl | begins
  · rwa [String.empty_append]
  · right
    rw [String.toList_append]
    exact begins.append _

theorem append_eq_empty_iff {a b : String} : a ++ b = "" ↔ a = "" ∧ b = "" := by
  rw [← String.toList_inj, String.toList_append, ← String.toList_inj, ← String.toList_inj]
  exact List.append_eq_nil_iff

/-- A text that follows one which is empty or begins unlike the word for null. -/
theorem begins_after {a b : String} (first : EmptyOrUnlike a) (begins : BeginsUnlike b.toList) :
    BeginsUnlike (a ++ b).toList := by
  rcases first with rfl | first
  · rwa [String.empty_append]
  · rw [String.toList_append]
    exact first.append _

theorem begins_before {a : String} (begins : BeginsUnlike a.toList) (b : String) : BeginsUnlike (a ++ b).toList := by
  rw [String.toList_append]
  exact begins.append _

/-! ## Durations -/

theorem begins_numeral (n : Nat) : BeginsUnlike (numeral n).toList := by
  rw [numeral, String.toList_ofList]
  exact begins_numeralChars n

theorem part_eq_empty_iff {amount : Nat} {unit : String} : part amount unit = "" ↔ amount = 0 := by
  unfold part
  split
  · rename_i zero
    simp [zero]
  · rename_i nonzero
    obtain ⟨c, rest, chars, -⟩ := begins_before (begins_numeral amount) unit
    constructor
    · intro empty
      rw [empty] at chars
      cases chars
    · exact fun zero => absurd zero nonzero

theorem emptyOrUnlike_part (amount : Nat) (unit : String) : EmptyOrUnlike (part amount unit) := by
  unfold part
  split
  · exact .inl rfl
  · exact .inr (begins_before (begins_numeral amount) unit)

theorem emptyOrUnlike_sign (negative : Prop) [Decidable negative] : EmptyOrUnlike (if negative then "-" else "") := by
  split
  · exact .inr ⟨'-', [], rfl, by decide⟩
  · exact .inl rfl

theorem emptyOrUnlike_durationText (months days nanoseconds : Int) :
    EmptyOrUnlike (durationText months days nanoseconds) := by
  unfold durationText
  simp only []
  repeat' apply EmptyOrUnlike.append
  · exact emptyOrUnlike_sign _
  all_goals exact emptyOrUnlike_part _ _

/-- Only a duration without any part has an empty text. -/
theorem durationText_eq_empty_iff {months days nanoseconds : Int} :
    durationText months days nanoseconds = "" ↔ months = 0 ∧ days = 0 ∧ signed64 nanoseconds = 0 := by
  have sign (negative : Prop) [Decidable negative] : (if negative then "-" else "") = "" ↔ ¬ negative := by
    split <;> simp [*]
  unfold durationText
  simp only [append_eq_empty_iff, part_eq_empty_iff, sign]
  generalize signed64 nanoseconds = count
  constructor
  · rintro ⟨⟨⟨⟨⟨⟨⟨⟨⟨signs, years⟩, rest⟩, noDays⟩, hours⟩, minutes⟩, seconds⟩, millis⟩, micros⟩, nanos⟩
    have noMonths : months.natAbs = 0 := by
      unfold yearsOfMonths at years
      split at years <;> omega
    have noTime : magnitude64 count = 0 := by omega
    have noCount : count = 0 := by
      unfold magnitude64 at noTime
      split at noTime <;> omega
    exact ⟨by omega, by omega, noCount⟩
  · rintro ⟨rfl, rfl, rfl⟩
    decide

/-! ## Identifiers and addresses -/

theorem begins_hexDigit {n : Nat} (small : n < 16) (rest : List Char) : BeginsUnlike (hexDigit n :: rest) := by
  have unlike : ∀ n < 16, hexDigit n ≠ 'N' := by decide
  exact ⟨_, rest, rfl, unlike n small⟩

theorem emptyOrUnlike_hex (bytes : Bytes) : EmptyOrUnlike (hex bytes) := by
  cases bytes with
  | nil => exact .inl rfl
  | cons b rest =>
    right
    have high : b.toNat / 16 < 16 := by
      have := b.toNat_lt
      omega
    rw [hex, String.toList_ofList]
    exact begins_hexDigit high _

theorem begins_join {mark a : String} {rest : List String} (begins : BeginsUnlike a.toList) :
    BeginsUnlike (join mark (a :: rest)).toList := by
  cases rest with
  | nil => exact begins
  | cons b more => exact begins_before (begins_before begins mark) _

theorem begins_uuidText (bytes : Bytes) : BeginsUnlike (uuidText bytes).toList := by
  unfold uuidText
  rw [join]
  · exact begins_before (begins_after (emptyOrUnlike_hex _) ⟨'-', [], rfl, by decide⟩) _
  · rintro ⟨⟩

theorem begins_hexGroup {n : Nat} (bounded : n < 65536) : BeginsUnlike (hexGroup n).toList := by
  have digits : ∀ d ∈ [n / 4096, n / 256 % 16, n / 16 % 16, n % 16], d < 16 := by
    simp only [List.mem_cons, List.not_mem_nil, or_false]
    omega
  rw [hexGroup, String.toList_ofList]
  split
  · exact begins_hexDigit (by decide) []
  · rename_i ds nonempty
    have kept := (List.dropWhile_suffix (l := [n / 4096, n / 256 % 16, n / 16 % 16, n % 16]) (· == 0)).subset
    generalize [n / 4096, n / 256 % 16, n / 16 % 16, n % 16].dropWhile (· == 0) = left at kept nonempty
    obtain ⟨d, rest, rfl⟩ := List.exists_cons_of_ne_nil nonempty
    exact begins_hexDigit (digits d (kept (by simp))) _

theorem bytePairs_lt (bytes : Bytes) : ∀ n ∈ bytePairs bytes, n < 65536 := by
  induction bytes using bytePairs.induct with
  | case1 a b rest ih =>
    rw [bytePairs]
    refine List.forall_mem_cons.mpr ⟨?_, ih⟩
    have := a.toNat_lt
    have := b.toNat_lt
    omega
  | case2 bytes short =>
    rw [bytePairs.eq_2 _ short]
    simp

/-- An address of two bytes or more, in groups, is not empty and begins with a
    digit or a colon. -/
theorem begins_wideAddressText {groups : List Nat} (some : groups ≠ []) (bounded : ∀ n ∈ groups, n < 65536) :
    BeginsUnlike (wideAddressText groups).toList := by
  have joined {part : List Nat} (inside : ∀ n ∈ part, n ∈ groups) : EmptyOrUnlike (join ":" (part.map hexGroup)) := by
    cases part with
    | nil => exact .inl rfl
    | cons n rest => exact .inr (begins_join (begins_hexGroup (bounded n (inside n (by simp)))))
  unfold wideAddressText
  simp only []
  split
  · obtain ⟨n, rest, rfl⟩ := List.exists_cons_of_ne_nil some
    exact begins_join (begins_hexGroup (bounded n (by simp)))
  · have colons : BeginsUnlike "::".toList := ⟨':', [':'], rfl, by decide⟩
    exact begins_before (begins_after (joined fun n inside => List.mem_of_mem_take inside) colons) _

theorem begins_addressText {bytes : Bytes} (width : bytes.length = 4 ∨ bytes.length = 16) :
    BeginsUnlike (addressText bytes).toList := by
  unfold addressText
  split
  · rename_i four
    obtain ⟨a, rest, rfl⟩ := List.exists_cons_of_length_eq_add_one four
    exact begins_join (begins_numeral _)
  · have sixteen := width.resolve_left ‹_›
    obtain ⟨a, rest, rfl⟩ := List.exists_cons_of_length_eq_add_one sixteen
    obtain ⟨b, rest, rfl⟩ := List.exists_cons_of_length_eq_add_one (n := 14) (by simpa using sixteen)
    exact begins_wideAddressText (by simp [bytePairs]) (bytePairs_lt _)

/-! ## All cells -/

theorem begins_padded (width n : Nat) : BeginsUnlike (padded width n).toList := by
  rw [padded, String.toList_ofList]
  exact begins_digits (padDigits_digits width n) (padDigits_ne_nil width n)

theorem begins_signedPadded (width : Nat) (i : Int) : BeginsUnlike (signedPadded width i).toList :=
  begins_after (emptyOrUnlike_sign _) (begins_padded width _)

theorem begins_bigDecimalText (unscaled scale : Int) : BeginsUnlike (bigDecimalText unscaled scale).toList := by
  refine begins_after (emptyOrUnlike_sign _) ?_
  rw [String.toList_ofList]
  split
  · exact (begins_numeralChars _).append _
  · obtain ⟨_, _, significand⟩ := Number.significand_fixedChars unscaled.natAbs scale.toNat
    exact begins_of_significand significand

namespace DriverCell

/-- An address has four or sixteen bytes. -/
def WellFormed : DriverCell → Prop
  | address b => b.length = 4 ∨ b.length = 16
  | _ => True

/-- The value is null, a text that stands for null, or a duration without any
    part. -/
def IsNull : DriverCell → Prop
  | null => True
  | text s => s = "NULL" ∨ s = ""
  | duration months days nanoseconds => months = 0 ∧ days = 0 ∧ signed64 nanoseconds = 0
  | _ => False

theorem marksNull_format_iff {cell : DriverCell} (formed : cell.WellFormed) : MarksNull cell.format ↔ cell.IsNull := by
  have never {text : String} (begins : BeginsUnlike text.toList) : MarksNull text ↔ False :=
    iff_false_intro (not_marksNull_of_begins begins)
  cases cell with
  | null => exact iff_true_intro (Or.inl rfl)
  | text s => exact Iff.rfl
  | boolean b => exact iff_of_false (by cases b <;> decide) id
  | number d => exact iff_false_intro (not_marksNull_text d)
  | bigint i => exact never (begins_integer i)
  | instant t =>
    cases t with
    | none => exact iff_of_false (by decide) id
    | some t => exact never (begins_integer t.millis)
  | bytes b => exact iff_false_intro (not_marksNull_bare (.hex b))
  | localDate date =>
    cases date with
    | date d => exact never (begins_before (begins_before (begins_before (begins_before
        (begins_signedPadded 4 d.year) _) _) _) _)
    | day number => exact never (begins_integer number)
  | localTime nanoseconds => exact never (begins_before (begins_before (begins_before (begins_before (begins_before
      (begins_before (begins_padded 2 _) _) _) _) _) _) _)
  | bigDecimal unscaled scale => exact never (begins_bigDecimalText unscaled scale)
  | uuid b => exact never (begins_uuidText b)
  | address b => exact never (begins_addressText formed)
  | duration months days nanoseconds =>
    rw [IsNull, ← durationText_eq_empty_iff, format]
    rcases emptyOrUnlike_durationText months days nanoseconds with empty | begins
    · exact iff_of_true (Or.inr empty) empty
    · exact iff_of_false (not_marksNull_of_begins begins) fun empty => not_marksNull_of_begins begins (Or.inr empty)
  | unsupported => exact iff_of_false (by decide) id

end DriverCell

end CqlTable
