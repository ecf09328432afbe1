import CqlTable.Proofs.Conversion.Basic
import CqlTable.Proofs.Conversion.Fields
import CqlTable.Proofs.Text.Hex

/-!
# Round trips: what is read from a cell is written as one that is read alike

Cells of integers, texts, bytes, truth values, dates and times are read, and
what they are read as is written in one form: other signs, zeros, letter case
and blanks around it are gone, and so is the sign of a year zero.
-/

namespace CqlTable

open Text Calendar

/-! ## Scalars and types of round trips -/

/-- The same member, but for the sign of zero. -/
def Member.plainZero : Member → Member
  | number d => number d.plainZero
  | member => member

/-- The same scalar, but for the signs of zeros. -/
def Scalar.plainZero : Scalar → Scalar
  | number d => number d.plainZero
  | fields members => fields (members.map fun entry => (entry.1, entry.2.plainZero))
  | s => s

/-- The types whose cells are written as they are read. -/
def LogicalType.IsExact : LogicalType → Prop
  | integer _ | textual _ | other _ | blob _ | boolean | date | time => True
  | floating _ | decimal _ | timestamp => False

/-- The scalar is not too long or too late to be written: bytes have at most
    the declared length, and the year is one of the exact integers. -/
def LogicalType.Holds : LogicalType → Scalar → Prop
  | blob (some most), .bytes bytes => bytes.length ≤ most
  | date, .fields members => ∀ year, members.field "year" = .number year →
      -9007199254740991 ≤ year.value ∧ year.value ≤ 9007199254740991
  | _, _ => True

/-! ## Integers -/

theorem narrow_bounds (kind : IntegerKind) :
    kind = .bigint ∨ (-2147483648 ≤ kind.least ∧ kind.greatest ≤ 2147483647) := by
  cases kind <;> decide

theorem readInteger_integer {kind : IntegerKind} {i : Int} (holds : kind.holds i = true) :
    readInteger kind (Text.integer i) = .ok i := by
  simp [readInteger, integerValue_integer, holds]

theorem readInteger_holds {kind : IntegerKind} {text : String} {i : Int} (read : readInteger kind text = .ok i) :
    kind.holds i = true := by
  unfold readInteger at read
  split at read
  · cases read
  · split at read
    · rename_i holds
      cases read
      exact holds
    · cases read

/-- An integer is written without signs and zeros that it does not need. -/
theorem round_trip_integer {kind : IntegerKind} {text : String} {s : Scalar}
    (decoded : decodeInteger kind text = .ok s) :
    ∃ i, encodeInteger kind s = .ok (.bare (Text.integer i)) ∧
      decodeInteger kind (Text.integer i) = .ok s.plainZero := by
  obtain ⟨i, read, number⟩ := map_eq_ok.mp decoded
  have holds := readInteger_holds read
  have again := readInteger_integer holds
  rcases narrow_bounds kind with rfl | narrow
  · subst number
    exact ⟨i, by simp [encodeInteger, integerLiteral, holds], by rw [decodeInteger, again]; rfl⟩
  · have bounds : kind.least ≤ i ∧ i ≤ kind.greatest := by simpa [IntegerKind.holds] using holds
    have small : i.natAbs ≤ Double.greatestExact := by
      unfold Double.greatestExact
      omega
    have isNumber : s = .number (Double.ofInt i) := by
      cases kind with
      | bigint => exact absurd narrow.2 (by decide)
      | _ => exact number.symm
    subst isNumber
    refine ⟨i, by simp [encodeInteger, Double.toInt_ofInt small, integerLiteral, holds], ?_⟩
    rw [decodeInteger, again, Scalar.plainZero, Double.plainZero_ofInt small, ← number]
    rfl

/-! ## Bytes -/

/-- Bytes are read from their own digits whatever their length. -/
theorem decodeBlob_hex (length : Option Nat) (bytes : Bytes) :
    decodeBlob length ("0x" ++ hex bytes) = .ok (.bytes bytes) := by
  have chars : ("0x" ++ hex bytes).toList = '0' :: 'x' :: hexChars bytes := by simp [hex]
  have whole : trimChars ('0' :: 'x' :: hexChars bytes) = '0' :: 'x' :: hexChars bytes :=
    trimChars_of_no_blanks (List.forall_mem_cons.mpr
      ⟨by decide, List.forall_mem_cons.mpr ⟨by decide, hexChars_not_blank bytes⟩⟩)
  rw [decodeBlob, chars, whole, blobBytes?, if_pos (Or.inl rfl), ofHexChars_hexChars]

theorem encodeBlob_bytes {length : Option Nat} {bytes : Bytes}
    (holds : (LogicalType.blob length).Holds (.bytes bytes)) :
    encodeBlob length (.bytes bytes) = .ok (.bare ("0x" ++ hex bytes)) := by
  cases length with
  | none => rfl
  | some most =>
    have fits : bytes.length ≤ most := holds
    simp [encodeBlob, fits]

end CqlTable
