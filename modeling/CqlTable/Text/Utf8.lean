import CqlTable.Text.Hex

/-!
# UTF-8: text of bytes

Bytes that are no UTF-8 become replacement characters, one for each longest
run of bytes that could have begun a character. A byte order mark is kept.
-/

namespace CqlTable.Text

/-- A character that has begun: how many bytes are missing, the bits so far,
    and the range in which the next byte has to lie. -/
structure Utf8Pending where
  missing : Nat
  bits : Nat
  least : Nat
  greatest : Nat

/-- What a byte does where a character may begin. -/
inductive Utf8Lead
  | whole (c : Char)
  | begins (pending : Utf8Pending)
  | stray

/-- First bytes: one to four byte forms, without overlong forms, surrogates
    and code points past the last. -/
def utf8Lead (b : Nat) : Utf8Lead :=
  if b < 0x80 then .whole (Char.ofNat b)
  else if 0xC2 ≤ b ∧ b ≤ 0xDF then .begins ⟨1, b - 0xC0, 0x80, 0xBF⟩
  else if b = 0xE0 then .begins ⟨2, 0, 0xA0, 0xBF⟩
  else if b = 0xED then .begins ⟨2, 0xD, 0x80, 0x9F⟩
  else if 0xE1 ≤ b ∧ b ≤ 0xEF then .begins ⟨2, b - 0xE0, 0x80, 0xBF⟩
  else if b = 0xF0 then .begins ⟨3, 0, 0x90, 0xBF⟩
  else if 0xF1 ≤ b ∧ b ≤ 0xF3 then .begins ⟨3, b - 0xF0, 0x80, 0xBF⟩
  else if b = 0xF4 then .begins ⟨3, 4, 0x80, 0x8F⟩
  else .stray

/-- Stands for bytes that are no character. -/
def replacement : Char := '\uFFFD'

/-- Characters of bytes, after the beginning of a character or none. -/
def utf8From : Option Utf8Pending → Bytes → List Char
  | none, [] => []
  | some _, [] => [replacement]
  | none, b :: rest =>
    match utf8Lead b.toNat with
    | .whole c => c :: utf8From none rest
    | .begins pending => utf8From (some pending) rest
    | .stray => replacement :: utf8From none rest
  | some pending, b :: rest =>
    if pending.least ≤ b.toNat ∧ b.toNat ≤ pending.greatest then
      let bits := 64 * pending.bits + (b.toNat - 0x80)
      if pending.missing ≤ 1 then Char.ofNat bits :: utf8From none rest
      else utf8From (some ⟨pending.missing - 1, bits, 0x80, 0xBF⟩) rest
    else
      replacement :: match utf8Lead b.toNat with
        | .whole c => c :: utf8From none rest
        | .begins next => utf8From (some next) rest
        | .stray => replacement :: utf8From none rest

/-- The text of a byte string. -/
def ofUtf8 (bytes : Bytes) : String := String.ofList (utf8From none bytes)

end CqlTable.Text
