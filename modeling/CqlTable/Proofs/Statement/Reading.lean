import CqlTable.Proofs.Text.Numerals
import CqlTable.Statement.Reading

/-!
# Reading statements: the kind of a text that begins with its word
-/

namespace CqlTable

open Text

theorem trimEndChars_append {front : List Char} (nonempty : front ≠ []) (inside : ∀ c ∈ front, isBlank c = false)
    (rest : List Char) : ∃ kept, trimEndChars (front ++ rest) = front ++ kept := by
  have last : (front.reverse ++ []).dropWhile isBlank = front.reverse ++ [] :=
    dropWhile_append_of_none (by simpa using inside) (by simpa using nonempty)
  rw [trimEndChars, List.reverse_append, List.dropWhile_append]
  split
  · refine ⟨[], ?_⟩
    rw [List.append_nil] at last
    rw [last, List.reverse_reverse, List.append_nil]
  · exact ⟨(rest.reverse.dropWhile isBlank).reverse, by rw [List.reverse_append, List.reverse_reverse]⟩

namespace StatementKind

theorem word_chars (kind : StatementKind) :
    kind.word.toList ≠ [] ∧ (∀ c ∈ kind.word.toList, isBlank c = false) ∧
      kind.word.toList.flatMap upperOne = kind.word.toList := by
  have inside : kind.word.toList.all (fun c => !isBlank c) = true := by cases kind <;> decide
  have upper : kind.word.toList.flatMap upperOne = kind.word.toList := by cases kind <;> decide
  refine ⟨by cases kind <;> decide, ?_, upper⟩
  intro c there
  simpa using List.all_eq_true.mp inside c there

/-- No word of a kind begins another one. -/
theorem isPrefixOf_word {kind other : StatementKind} (rest : List Char) :
    kind.word.toList.isPrefixOf (other.word.toList ++ rest) = decide (kind = other) := by
  cases kind <;> cases other <;> rfl

theorem ofText_word {kind : StatementKind} {cql : String} {rest : List Char}
    (text : cql.toList = kind.word.toList ++ rest) : ofText cql = kind := by
  obtain ⟨nonempty, inside, upper⟩ := word_chars kind
  obtain ⟨kept, trimmed⟩ := trimEndChars_append nonempty inside rest
  have begins : (fun other : StatementKind => upperStartsWith other.word (kind.word.toList ++ kept)) =
      fun other => decide (other = kind) := by
    funext other
    rw [upperStartsWith, List.flatMap_append, upper, isPrefixOf_word]
  rw [ofText, trimChars, text, dropWhile_append_of_none inside nonempty, trimmed, begins]
  cases kind <;> rfl

end StatementKind

end CqlTable
