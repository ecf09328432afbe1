import CqlTable.Text.LetterCase

/-!
# Letter case: texts that differ in ASCII capitals

Texts that are equal but for the case of their ASCII letters have one lower
case form (`lower_eq_of_lowerAscii`). The rule on a final sigma looks at
neighbours only for whether they have case, and that is the same for a capital
and its small letter.
-/

namespace CqlTable.Text

/-! ## One character -/

/-- What holds of the ASCII capitals, and of each other character because it is
    its own small letter, holds of all characters. -/
theorem lowerAscii_induction {P : Char → Char → Prop}
    (capital : ∀ n < 26, P (Char.ofNat (65 + n)) (Char.ofNat (97 + n))) (other : ∀ c, P c c) (c : Char) :
    P c (lowerAscii c) := by
  unfold lowerAscii
  split
  · rename_i isCapital
    obtain ⟨low, high⟩ : 65 ≤ c.toNat ∧ c.toNat ≤ 90 := isCapital
    have same : c = Char.ofNat (65 + (c.toNat - 65)) := by
      rw [Nat.add_sub_cancel' low, Char.ofNat_toNat]
    have small : c.toNat + 32 = 97 + (c.toNat - 65) := by omega
    have pair := capital (c.toNat - 65) (by omega)
    rwa [← same, ← small] at pair
  · exact other c

theorem lowerOne_lowerAscii (c : Char) : lowerOne (lowerAscii c) = lowerOne c :=
  lowerAscii_induction (P := fun c small => lowerOne small = lowerOne c) (by decide) (fun _ => rfl) c

theorem isCased_lowerAscii (c : Char) : isCased (lowerAscii c) = isCased c :=
  lowerAscii_induction (P := fun c small => isCased small = isCased c) (by decide) (fun _ => rfl) c

theorem isCaseIgnorable_lowerAscii (c : Char) : isCaseIgnorable (lowerAscii c) = isCaseIgnorable c :=
  lowerAscii_induction (P := fun c small => isCaseIgnorable small = isCaseIgnorable c) (by decide +kernel)
    (fun _ => rfl) c

theorem lowerAscii_eq_sigma (c : Char) : lowerAscii c = 'Σ' ↔ c = 'Σ' :=
  lowerAscii_induction (P := fun c small => small = 'Σ' ↔ c = 'Σ') (by decide) (fun _ => Iff.rfl) c

/-! ## Texts -/

theorem meetsCased_lowerAscii (cs : List Char) : meetsCased (cs.map lowerAscii) = meetsCased cs := by
  induction cs with
  | nil => rfl
  | cons c rest ih => rw [List.map_cons, meetsCased, meetsCased, isCaseIgnorable_lowerAscii, isCased_lowerAscii, ih]

theorem lowerFrom_lowerAscii (before cs : List Char) :
    lowerFrom (before.map lowerAscii) (cs.map lowerAscii) = lowerFrom before cs := by
  induction cs generalizing before with
  | nil => rfl
  | cons c rest ih =>
    have later := ih (c :: before)
    rw [List.map_cons] at later
    rw [List.map_cons, lowerFrom, lowerFrom, later, lowerOne_lowerAscii]
    simp only [lowerAscii_eq_sigma, meetsCased_lowerAscii]

/-- A text with its ASCII capitals as small letters. -/
def foldAscii (s : String) : String := String.ofList (s.toList.map lowerAscii)

theorem lower_foldAscii (s : String) : lower (foldAscii s) = lower s := by
  have chars : lowerFrom [] (s.toList.map lowerAscii) = lowerFrom [] s.toList := lowerFrom_lowerAscii [] s.toList
  rw [lower, foldAscii, String.toList_ofList, chars, lower]

theorem lowerFrom_of_ascii {cs : List Char} (ascii : ∀ c ∈ cs, c.toNat < 128) (before : List Char) :
    lowerFrom before cs = cs.map lowerAscii := by
  induction cs generalizing before with
  | nil => rfl
  | cons c rest ih =>
    rw [List.forall_mem_cons] at ascii
    obtain ⟨first, others⟩ := ascii
    have noSigma : c ≠ 'Σ' := by
      rintro rfl
      exact absurd first (by decide)
    rw [lowerFrom, if_neg noSigma, lowerOne, if_pos first, ih others]
    rfl

/-- The lower case form of a text of ASCII only changes its capitals. -/
theorem lower_of_ascii {s : String} (ascii : ∀ c ∈ s.toList, c.toNat < 128) : lower s = foldAscii s := by
  rw [lower, foldAscii, lowerFrom_of_ascii ascii]

/-! ## Capitals -/

theorem upperAscii_lowerAscii (c : Char) : upperAscii (lowerAscii c) = upperAscii c :=
  lowerAscii_induction (P := fun c small => upperAscii small = upperAscii c) (by decide) (fun _ => rfl) c

theorem lowerAscii_upperAscii (c : Char) : lowerAscii (upperAscii c) = lowerAscii c := by
  have ofSmall : ∀ n < 26, lowerAscii (Char.ofNat (97 + n - 32)) = lowerAscii (Char.ofNat (97 + n)) := by decide
  unfold upperAscii
  split
  · rename_i isSmall
    obtain ⟨low, high⟩ : 97 ≤ c.toNat ∧ c.toNat ≤ 122 := isSmall
    have same := ofSmall (c.toNat - 97) (by omega)
    rwa [Nat.add_sub_cancel' low, Char.ofNat_toNat] at same
  · rfl

/-- Texts of ASCII that differ in letter case only have the same capitals. -/
theorem sameName_iff_of_ascii {s t : String} (ascii : ∀ c ∈ s.toList, c.toNat < 128)
    (others : ∀ c ∈ t.toList, c.toNat < 128) :
    sameName s t = true ↔ s.toList.map upperAscii = t.toList.map upperAscii := by
  have smallOf : ∀ cs : List Char, (cs.map upperAscii).map lowerAscii = cs.map lowerAscii := by
    simp [Function.comp_def, lowerAscii_upperAscii]
  have capitalsOf : ∀ cs : List Char, (cs.map lowerAscii).map upperAscii = cs.map upperAscii := by
    simp [Function.comp_def, upperAscii_lowerAscii]
  rw [sameName, lower_of_ascii ascii, lower_of_ascii others, beq_iff_eq, foldAscii, foldAscii, String.ofList_inj]
  constructor
  · intro same
    rw [← capitalsOf, same, capitalsOf]
  · intro same
    rw [← smallOf, same, smallOf]

end CqlTable.Text
