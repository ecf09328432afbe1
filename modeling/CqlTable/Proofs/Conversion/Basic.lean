import CqlTable.Conversion.Decode

/-!
# Conversions that succeed or fail
-/

namespace CqlTable

theorem map_eq_ok {ε α β : Type} {outcome : Except ε α} {f : α → β} {b : β} :
    outcome.map f = .ok b ↔ ∃ a, outcome = .ok a ∧ f a = b := by
  cases outcome with
  | error e => simp [Except.map]
  | ok a => simp [Except.map]

theorem map_eq_error {ε α β : Type} {outcome : Except ε α} {f : α → β} {e : ε} :
    outcome.map f = .error e ↔ outcome = .error e := by
  cases outcome with
  | error other => simp [Except.map]
  | ok a => simp [Except.map]

theorem orFault_eq_ok {α : Type} {conversion : Conversion α} {a : α} :
    conversion.orFault = .ok a ↔ conversion = .ok a := by
  cases conversion with
  | error e => simp [Conversion.orFault]
  | ok a => simp [Conversion.orFault]

theorem decode_eq_some_iff {type : LogicalType} {text : String} {s : Scalar} :
    decode type text = .ok (some s) ↔ ¬ (text = "NULL" ∨ text = "") ∧ decodeScalar type text = .ok s := by
  unfold decode
  by_cases null : text = "NULL" ∨ text = ""
  · simp [null]
  · simp [null, map_eq_ok]

/-- A type that refuses the words for null reads no null from what it reads. -/
theorem decode_of_refused {type : LogicalType} {text : String} {s : Scalar} {e e' : ConversionError}
    (word : decodeScalar type "NULL" = .error e) (empty : decodeScalar type "" = .error e')
    (decoded : decodeScalar type text = .ok s) : decode type text = .ok (some s) := by
  refine decode_eq_some_iff.mpr ⟨?_, decoded⟩
  rintro (rfl | rfl)
  · rw [word] at decoded
    cases decoded
  · rw [empty] at decoded
    cases decoded

end CqlTable
