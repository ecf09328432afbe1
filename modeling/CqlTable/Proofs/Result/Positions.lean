import CqlTable.Proofs.Number.Integers
import CqlTable.Result.Position
import Mathlib.Data.Nat.Digits.Defs

/-!
# Positions: the index that a reference stands for

A reference is the bytes of an index, and stands for no other. An index is
given as a double, which stays exact as long as it can be written. Numbers in as
many bytes have the order of the bytes (`ofBigEndian_lt_iff`), so references have
the order of their indexes (`positions_in_order`).
-/

namespace CqlTable

theorem length_bigEndian (width n : Nat) : (bigEndian width n).length = width := by
  induction width generalizing n with
  | zero => rfl
  | succ width ih => rw [bigEndian, List.length_append, ih, List.length_singleton]

theorem ofBigEndian_append (bytes : Bytes) (byte : UInt8) :
    ofBigEndian (bytes ++ [byte]) = 256 * ofBigEndian bytes + byte.toNat := by
  rw [ofBigEndian, List.foldl_append]
  rfl

/-- A number that its bytes are wide enough for is read back. -/
theorem ofBigEndian_bigEndian {width n : Nat} (small : n < 256 ^ width) :
    ofBigEndian (bigEndian width n) = n := by
  induction width generalizing n with
  | zero =>
    rw [Nat.pow_zero, Nat.lt_one_iff] at small
    rw [small]
    rfl
  | succ width ih =>
    have high : n / 256 < 256 ^ width := Nat.div_lt_of_lt_mul (by rwa [Nat.pow_succ, Nat.mul_comm] at small)
    have last : (UInt8.ofNat (n % 256)).toNat = n % 256 := by
      rw [UInt8.toNat_ofNat']
      omega
    rw [bigEndian, ofBigEndian_append, ih high, last]
    omega

theorem encodePosition_eq_ok {index : Double} {ref : Bytes} (encoded : encodePosition index = .ok ref) :
    ∃ n : Nat, index.toInt? = some n ∧ n ≤ greatestPosition ∧ ref = bigEndian positionWidth n := by
  unfold encodePosition at encoded
  split at encoded
  · next n integer =>
    split at encoded
    · next small =>
      cases encoded
      exact ⟨n, integer, small, rfl⟩
    · cases encoded
  · cases encoded

theorem encodePosition_ofNat {n : Nat} (small : n ≤ greatestPosition) :
    encodePosition (Double.ofNat n) = .ok (bigEndian positionWidth n) := by
  have integer : (Double.ofNat n).toInt? = some n := by
    apply Double.toInt_ofInt
    unfold greatestPosition at small
    unfold Double.greatestExact
    omega
  rw [encodePosition, integer]
  exact if_pos small

theorem decodePosition_eq_ok_iff {ref : Bytes} {index : Nat} : decodePosition ref = .ok index ↔
    ref.length = positionWidth ∧ ofBigEndian ref ≤ greatestPosition ∧ ofBigEndian ref = index := by
  unfold decodePosition
  by_cases width : ref.length = positionWidth
  · by_cases past : greatestPosition < ofBigEndian ref
    · simp [width, past]
    · simp [width, past, Nat.le_of_not_lt past]
  · simp [width]

theorem decodePosition_bigEndian {n : Nat} (small : n ≤ greatestPosition) :
    decodePosition (bigEndian positionWidth n) = .ok n := by
  have whole : ofBigEndian (bigEndian positionWidth n) = n := by
    apply ofBigEndian_bigEndian
    unfold greatestPosition at small
    unfold positionWidth
    omega
  exact decodePosition_eq_ok_iff.mpr ⟨length_bigEndian _ n, by rwa [whole], whole⟩

/-- The reference to an index stands for that index. -/
theorem decodePosition_encodePosition {index : Nat} {ref : Bytes}
    (encoded : encodePosition (Double.ofNat index) = .ok ref) : decodePosition ref = .ok index := by
  obtain ⟨n, integer, small, rfl⟩ := encodePosition_eq_ok encoded
  have same := Double.toInt_ofNat integer (by unfold greatestPosition at small; unfold Double.greatestExact; omega)
  rw [decodePosition_bigEndian small, ← Int.natCast_inj.mp same]

/-! ## The order of bytes -/

/-- The number of bytes as that of digits, of which the last byte is the
    first. -/
def byteValue (bytes : Bytes) : Nat := Nat.ofDigits 256 (bytes.reverse.map UInt8.toNat)

theorem ofBigEndian_eq_byteValue (bytes : Bytes) : ofBigEndian bytes = byteValue bytes := by
  induction bytes using List.reverseRecOn with
  | nil => rfl
  | append_singleton front last ih =>
    rw [ofBigEndian_append, ih, byteValue, byteValue, List.reverse_append, List.reverse_singleton,
      List.singleton_append, List.map_cons, Nat.ofDigits_cons]
    exact Nat.add_comm _ _

theorem ofBigEndian_cons (first : UInt8) (rest : Bytes) :
    ofBigEndian (first :: rest) = first.toNat * 256 ^ rest.length + ofBigEndian rest := by
  induction rest using List.reverseRecOn with
  | nil => simp [ofBigEndian]
  | append_singleton front last ih =>
    rw [← List.cons_append, ofBigEndian_append, ofBigEndian_append, ih, List.length_append, List.length_singleton,
      Nat.pow_succ]
    ring

theorem ofBigEndian_lt (bytes : Bytes) : ofBigEndian bytes < 256 ^ bytes.length := by
  induction bytes with
  | nil => simp [ofBigEndian]
  | cons first rest ih =>
    have digit : first.toNat + 1 ≤ 256 := first.toNat_lt
    calc ofBigEndian (first :: rest)
        = first.toNat * 256 ^ rest.length + ofBigEndian rest := ofBigEndian_cons first rest
      _ < (first.toNat + 1) * 256 ^ rest.length := by linarith
      _ ≤ 256 * 256 ^ rest.length := Nat.mul_le_mul_right _ digit
      _ = 256 ^ (first :: rest).length := by rw [List.length_cons, Nat.pow_succ, Nat.mul_comm]

/-- Bytes are those of the number that they stand for. -/
theorem bigEndian_ofBigEndian (bytes : Bytes) : bigEndian bytes.length (ofBigEndian bytes) = bytes := by
  induction bytes using List.reverseRecOn with
  | nil => rfl
  | append_singleton front last ih =>
    have digit : last.toNat < 256 := last.toNat_lt
    have high : (256 * ofBigEndian front + last.toNat) / 256 = ofBigEndian front := by omega
    have low : (256 * ofBigEndian front + last.toNat) % 256 = last.toNat := by omega
    rw [List.length_append, List.length_singleton, bigEndian, ofBigEndian_append, high, low, ih, UInt8.ofNat_toNat]

/-- The first byte that differs decides, since what follows it cannot make up
    for a step of one. -/
theorem ofBigEndian_lt_iff {a b : Bytes} (same : a.length = b.length) : ofBigEndian a < ofBigEndian b ↔ a < b := by
  induction a generalizing b with
  | nil =>
    rw [List.eq_nil_of_length_eq_zero same.symm]
    simp
  | cons first rest ih =>
    cases b with
    | nil => simp at same
    | cons other others =>
      have lengths : rest.length = others.length := by simpa using same
      have restBound := ofBigEndian_lt rest
      have othersBound := ofBigEndian_lt others
      rw [ofBigEndian_cons, ofBigEndian_cons, List.cons_lt_cons_iff, ← ih lengths, UInt8.lt_iff_toNat_lt,
        ← UInt8.toNat_inj, lengths]
      rw [lengths] at restBound
      rcases Nat.lt_trichotomy first.toNat other.toNat with less | equal | greater
      · have step : (first.toNat + 1) * 256 ^ others.length ≤ other.toNat * 256 ^ others.length :=
          Nat.mul_le_mul_right _ less
        exact iff_of_true (by linarith) (.inl less)
      · rw [equal]
        simp
      · have step : (other.toNat + 1) * 256 ^ others.length ≤ first.toNat * 256 ^ others.length :=
          Nat.mul_le_mul_right _ greater
        refine iff_of_false (by linarith) ?_
        rintro (less | ⟨equal, -⟩)
        · exact Nat.lt_asymm less greater
        · exact Nat.ne_of_gt greater equal

/-! ## References -/

/-- The number is the index of a row: an integer from zero below two to the
    fifty-third. -/
structure IsIndex (number : Double) (n : Nat) : Prop where
  finite : number.isFinite = true
  value : number.value = n
  small : n < 2 ^ 53

theorem isIndex_iff {number : Double} {n : Nat} :
    IsIndex number n ↔ number.toInt? = some (n : Int) ∧ n ≤ greatestPosition := by
  have bound : n < 2 ^ 53 ↔ n ≤ greatestPosition := by
    unfold greatestPosition
    omega
  rw [Double.toInt_eq_some_iff, Int.cast_natCast, ← bound]
  exact ⟨fun isIndex => ⟨⟨isIndex.finite, isIndex.value⟩, isIndex.small⟩,
    fun ⟨⟨finite, value⟩, small⟩ => ⟨finite, value, small⟩⟩

theorem encodePosition_of_isIndex {number : Double} {n : Nat} (isIndex : IsIndex number n) :
    encodePosition number = .ok (bigEndian positionWidth n) := by
  obtain ⟨integer, small⟩ := isIndex_iff.mp isIndex
  rw [encodePosition, integer]
  exact if_pos small

theorem encodePosition_of_not_isIndex {number : Double} (noIndex : ∀ n, ¬ IsIndex number n) :
    encodePosition number = .error ⟨.outOfRange, .scanPosition, number.text, none⟩ := by
  unfold encodePosition
  split
  · next n integer => exact if_neg fun small => noIndex n (isIndex_iff.mpr ⟨integer, small⟩)
  · rfl

theorem decodePosition_of_value {ref : Bytes} (width : ref.length = 8) (small : byteValue ref < 2 ^ 53) :
    decodePosition ref = .ok (byteValue ref) := by
  refine decodePosition_eq_ok_iff.mpr ⟨width, ?_, ofBigEndian_eq_byteValue ref⟩
  rw [ofBigEndian_eq_byteValue]
  exact Nat.le_of_lt_succ small

theorem decodePosition_of_large {ref : Bytes} (width : ref.length = 8) (large : 2 ^ 53 ≤ byteValue ref) :
    decodePosition ref = .error ⟨.outOfRange, .scanPosition, Text.numeral (byteValue ref), none⟩ := by
  have sameWidth : ¬ ref.length ≠ positionWidth := not_not_intro width
  rw [decodePosition, if_neg sameWidth, ofBigEndian_eq_byteValue]
  exact if_pos (Nat.lt_of_succ_le large)

theorem decodePosition_of_width {ref : Bytes} (width : ref.length ≠ 8) :
    decodePosition ref = .error ⟨.malformed, .scanPosition, (Scalar.bytes ref).shown, none⟩ :=
  if_pos width

/-- References of indexes have the order of the indexes. -/
theorem encodePosition_lt_iff {number other : Double} {ref otherRef : Bytes}
    (encoded : encodePosition number = .ok ref) (otherEncoded : encodePosition other = .ok otherRef) :
    number.value < other.value ↔ ref < otherRef := by
  obtain ⟨n, integer, small, rfl⟩ := encodePosition_eq_ok encoded
  obtain ⟨m, otherInteger, otherSmall, rfl⟩ := encodePosition_eq_ok otherEncoded
  have wide {k : Nat} (bound : k ≤ greatestPosition) : k < 256 ^ positionWidth := by
    unfold greatestPosition at bound
    unfold positionWidth
    omega
  have lengths : (bigEndian positionWidth n).length = (bigEndian positionWidth m).length := by
    rw [length_bigEndian, length_bigEndian]
  rw [← ofBigEndian_lt_iff lengths, ofBigEndian_bigEndian (wide small), ofBigEndian_bigEndian (wide otherSmall),
    (Double.toInt_eq_some_iff.mp integer).2, (Double.toInt_eq_some_iff.mp otherInteger).2]
  exact Int.cast_lt.trans Int.ofNat_lt

/-- The indexes of rows, and no other numbers, have references, and these are
    read as their indexes. The strings of eight bytes whose number is an index,
    and no others, are references, and are those of that index. The order of
    references is that of their indexes. -/
theorem positions_in_order :
    (∀ number n, IsIndex number n → ∃ ref, encodePosition number = .ok ref ∧ decodePosition ref = .ok n) ∧
    (∀ number, (∀ n, ¬ IsIndex number n) →
      encodePosition number = .error ⟨.outOfRange, .scanPosition, number.text, none⟩) ∧
    (∀ ref : Bytes, ref.length = 8 → byteValue ref < 2 ^ 53 → decodePosition ref = .ok (byteValue ref) ∧
      IsIndex (Double.ofNat (byteValue ref)) (byteValue ref) ∧
      ∀ number, IsIndex number (byteValue ref) → encodePosition number = .ok ref) ∧
    (∀ ref : Bytes, ref.length = 8 → 2 ^ 53 ≤ byteValue ref →
      decodePosition ref = .error ⟨.outOfRange, .scanPosition, Text.numeral (byteValue ref), none⟩) ∧
    (∀ ref : Bytes, ref.length ≠ 8 →
      decodePosition ref = .error ⟨.malformed, .scanPosition, (Scalar.bytes ref).shown, none⟩) ∧
    ∀ number other ref otherRef, encodePosition number = .ok ref → encodePosition other = .ok otherRef →
      (number.value < other.value ↔ ref < otherRef) := by
  refine ⟨fun number n isIndex => ?_, fun number => encodePosition_of_not_isIndex, fun ref width small => ?_,
    fun ref => decodePosition_of_large, fun ref => decodePosition_of_width,
    fun number other ref otherRef => encodePosition_lt_iff⟩
  · exact ⟨_, encodePosition_of_isIndex isIndex, decodePosition_bigEndian (isIndex_iff.mp isIndex).2⟩
  · refine ⟨decodePosition_of_value width small, isIndex_iff.mpr ⟨Double.toInt_ofInt ?_, Nat.le_of_lt_succ small⟩,
      fun number isIndex => ?_⟩
    · rw [Int.natAbs_natCast]
      exact small.le
    · have whole := bigEndian_ofBigEndian ref
      rw [width, ofBigEndian_eq_byteValue] at whole
      exact (encodePosition_of_isIndex isIndex).trans (congrArg Except.ok whole)

/-- Neighbours on both sides of a full byte, the greatest index, and the bytes
    after it. -/
theorem neighbours_in_order :
    let below : Bytes := [0, 0, 0, 0, 0, 0, 0, 255]
    let above : Bytes := [0, 0, 0, 0, 0, 0, 1, 0]
    let greatest : Bytes := [0, 31, 255, 255, 255, 255, 255, 255]
    let past : Bytes := [0, 32, 0, 0, 0, 0, 0, 0]
    encodePosition (Double.ofNat 255) = .ok below ∧ encodePosition (Double.ofNat 256) = .ok above ∧
      below < above ∧ decodePosition greatest = .ok 9007199254740991 ∧
      decodePosition past = .error ⟨.outOfRange, .scanPosition, "9007199254740992", none⟩ := by
  intro below above greatest past
  obtain ⟨_, _, reads, large, _, order⟩ := positions_in_order
  obtain ⟨_, isBelow, fromBelow⟩ := reads below rfl (by decide)
  obtain ⟨_, isAbove, fromAbove⟩ := reads above rfl (by decide)
  have belowEncoded : encodePosition (Double.ofNat 255) = .ok below := fromBelow _ isBelow
  have aboveEncoded : encodePosition (Double.ofNat 256) = .ok above := fromAbove _ isAbove
  refine ⟨belowEncoded, aboveEncoded, (order _ _ _ _ belowEncoded aboveEncoded).mp (by decide +kernel),
    (reads greatest rfl (by decide)).1, ?_⟩
  rw [large past rfl (by decide)]
  decide +kernel

end CqlTable
