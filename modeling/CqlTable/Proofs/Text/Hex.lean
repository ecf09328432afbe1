import CqlTable.Proofs.Text.Numerals
import CqlTable.Text.Hex

/-!
# Hexadecimal text: bytes are read from their digits
-/

namespace CqlTable.Text

theorem hexValue_hexDigit : ∀ n < 16, hexValue? (hexDigit n) = some n := by decide

theorem exists_hexDigit {bytes : Bytes} {c : Char} (inside : c ∈ hexChars bytes) : ∃ n < 16, c = hexDigit n := by
  obtain ⟨b, _, digit⟩ := List.mem_flatMap.mp inside
  have bound := b.toNat_lt
  simp only [hexByte, List.mem_cons, List.not_mem_nil, or_false] at digit
  rcases digit with rfl | rfl
  · exact ⟨_, by omega, rfl⟩
  · exact ⟨_, by omega, rfl⟩

theorem length_hexChars (bytes : Bytes) : (hexChars bytes).length = 2 * bytes.length := by
  induction bytes with
  | nil => rfl
  | cons b rest ih =>
    have first : hexChars (b :: rest) = hexByte b ++ hexChars rest := rfl
    rw [first, List.length_append, ih, List.length_cons]
    simp [hexByte]
    omega

theorem hexChars_not_blank (bytes : Bytes) : ∀ c ∈ hexChars bytes, isBlank c = false := by
  have digits : ∀ n < 16, isBlank (hexDigit n) = false := by decide
  intro c inside
  obtain ⟨n, small, rfl⟩ := exists_hexDigit inside
  exact digits n small

theorem ofHexChars_hexChars (bytes : Bytes) : ofHexChars? (hexChars bytes) = some bytes := by
  induction bytes with
  | nil => rfl
  | cons b rest ih =>
    have bound := b.toNat_lt
    have chars : hexChars (b :: rest) = hexDigit (b.toNat / 16) :: hexDigit (b.toNat % 16) :: hexChars rest := rfl
    have whole : 16 * (b.toNat / 16) + b.toNat % 16 = b.toNat := Nat.div_add_mod b.toNat 16
    rw [chars, ofHexChars?, hexValue_hexDigit _ (by omega), hexValue_hexDigit _ (by omega), ih]
    simp [whole]

end CqlTable.Text
