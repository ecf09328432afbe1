import CqlTable.Proofs.Text.Numerals

/-!
# Trimming: texts and the blanks around them

Blanks around a text make no difference to what is left when it is trimmed
(`trimChars_padded`), and what is left has none at its ends
(`bareEnds_trimChars`), so it is left alone (`trimChars_of_bareEnds`).
-/

namespace CqlTable

open Text

/-! ## Texts that trimming leaves alone -/

/-- Characters of which the first and the last are no blanks. -/
structure BareEnds (cs : List Char) : Prop where
  nonempty : cs ≠ []
  first : ∀ c ∈ cs.head?, isBlank c = false
  last : ∀ c ∈ cs.getLast?, isBlank c = false

variable {cs after : List Char}

theorem BareEnds.append (before : BareEnds cs) (ends : BareEnds after) (between : List Char) :
    BareEnds (cs ++ between ++ after) := by
  refine ⟨by simp [before.nonempty], fun c isFirst => before.first c ?_, fun c isLast => ends.last c ?_⟩
  · rwa [List.append_assoc, List.head?_append_of_ne_nil _ before.nonempty] at isFirst
  · rwa [List.getLast?_append_of_ne_nil _ ends.nonempty] at isLast

theorem trimChars_of_bareEnds (bare : BareEnds cs) : trimChars cs = cs := by
  obtain ⟨nonempty, first, last⟩ := bare
  have front : cs.dropWhile isBlank = cs := by
    rw [List.dropWhile_eq_self_iff]
    intro short
    simpa using first cs[0] (by simp [List.head?_eq_getElem?, short])
  have back : cs.reverse.dropWhile isBlank = cs.reverse := by
    rw [List.dropWhile_eq_self_iff]
    intro short
    have isLast : cs.reverse[0] ∈ cs.getLast? := by
      rw [← List.head?_reverse]
      simp [List.head?_eq_getElem?, List.length_pos_iff.mpr nonempty]
    simpa using last _ isLast
  rw [trimChars, trimEndChars, front, back, List.reverse_reverse]

/-! ## What trimming leaves -/

/-- Blanks around a text do not count. -/
theorem trimChars_padded {before : List Char} (blankBefore : ∀ c ∈ before, isBlank c = true)
    (blankAfter : ∀ c ∈ after, isBlank c = true) : trimChars (before ++ cs ++ after) = trimChars cs := by
  have none : after.dropWhile isBlank = [] := List.dropWhile_eq_nil_iff.mpr blankAfter
  have reversed : ∀ c ∈ after.reverse, isBlank c = true := by simpa using blankAfter
  rw [trimChars, trimChars, List.append_assoc, List.dropWhile_append_of_pos blankBefore, List.dropWhile_append]
  split
  · next blank => rw [none, List.isEmpty_iff.mp blank]
  · rw [trimEndChars, trimEndChars, List.reverse_append, List.dropWhile_append_of_pos reversed]

theorem head?_dropWhile_blank (cs : List Char) : ∀ c ∈ (cs.dropWhile isBlank).head?, isBlank c = false := by
  intro c first
  have bare := List.head?_dropWhile_not isBlank cs
  rw [Option.mem_def.mp first] at bare
  simpa using bare

theorem bareEnds_trimChars (nonempty : trimChars cs ≠ []) : BareEnds (trimChars cs) := by
  have split : cs.dropWhile isBlank =
      trimChars cs ++ ((cs.dropWhile isBlank).reverse.takeWhile isBlank).reverse := by
    rw [trimChars, trimEndChars, ← List.reverse_append, List.takeWhile_append_dropWhile, List.reverse_reverse]
  refine ⟨nonempty, fun c first => head?_dropWhile_blank cs c ?_, fun c last => ?_⟩
  · rwa [split, List.head?_append_of_ne_nil _ nonempty]
  · rw [trimChars, trimEndChars, List.getLast?_reverse] at last
    exact head?_dropWhile_blank _ c last

end CqlTable
