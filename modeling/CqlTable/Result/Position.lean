import CqlTable.Conversion.Encode

/-!
# Scan positions: references to rows of a result

The index of a row is written in eight bytes, the greatest first. Indexes stop
below two to the fifty-third.
-/

namespace CqlTable

/-- Bytes of a reference. -/
def positionWidth : Nat := 8

/-- The greatest index. -/
def greatestPosition : Nat := 9007199254740991

/-- The last `width` bytes of a number, the greatest first. -/
def bigEndian : Nat → Nat → Bytes
  | 0, _ => []
  | width + 1, n => bigEndian width (n / 256) ++ [UInt8.ofNat (n % 256)]

/-- The number that bytes stand for, the greatest first. -/
def ofBigEndian (bytes : Bytes) : Nat := bytes.foldl (fun n b => 256 * n + b.toNat) 0

/-- The reference to an index. -/
def encodePosition (index : Double) : Conversion Bytes :=
  match index.toInt? with
  | some (.ofNat n) =>
    if n ≤ greatestPosition then .ok (bigEndian positionWidth n)
    else .error ⟨.outOfRange, .scanPosition, index.text, none⟩
  | _ => .error ⟨.outOfRange, .scanPosition, index.text, none⟩

/-- The index that a reference stands for. -/
def decodePosition (ref : Bytes) : Conversion Nat :=
  if ref.length ≠ positionWidth then
    .error ⟨.malformed, .scanPosition, (Scalar.bytes ref).shown, none⟩
  else if greatestPosition < ofBigEndian ref then
    .error ⟨.outOfRange, .scanPosition, Text.numeral (ofBigEndian ref), none⟩
  else .ok (ofBigEndian ref)

end CqlTable
