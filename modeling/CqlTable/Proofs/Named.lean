import CqlTable.Named
import Mathlib.Data.List.Nodup

/-!
# Named entries: what is found under a name

A look-up finds the first entry of its name (`get_append`), and the order of
entries does not matter where names are distinct (`get_of_perm`). What is put
under a name is found there, and nothing else changes (`get_put`).
-/

namespace CqlTable

variable {α : Type}

/-! ## Look-up -/

theorem get_append (key : String) (first second : Named α) :
    Named.get? key (first ++ second) = (Named.get? key first).or (Named.get? key second) := by
  induction first with
  | nil => rfl
  | cons entry rest ih =>
    obtain ⟨name, a⟩ := entry
    by_cases same : name = key
    · simp [Named.get?, same]
    · simpa [Named.get?, same] using ih

theorem get_of_mem {entries : Named α} {name : String} {a : α} (distinct : (entries.map (·.1)).Nodup)
    (inside : (name, a) ∈ entries) : Named.get? name entries = some a := by
  induction entries with
  | nil => simp at inside
  | cons entry rest ih =>
    obtain ⟨key, b⟩ := entry
    rw [List.map_cons, List.nodup_cons] at distinct
    rcases List.mem_cons.mp inside with same | inRest
    · cases same
      simp [Named.get?]
    · have other : key ≠ name := by
        rintro rfl
        exact distinct.1 (List.mem_map.mpr ⟨_, inRest, rfl⟩)
      simpa [Named.get?, other] using ih distinct.2 inRest

theorem mem_of_get {entries : Named α} {name : String} {a : α} (found : Named.get? name entries = some a) :
    (name, a) ∈ entries := by
  induction entries with
  | nil => cases found
  | cons entry rest ih =>
    obtain ⟨key, b⟩ := entry
    by_cases same : key = name
    · subst same
      simp only [Named.get?, ↓reduceIte, Option.some.injEq] at found
      simp [found]
    · simp only [Named.get?, same, ↓reduceIte] at found
      exact List.mem_cons_of_mem _ (ih found)

theorem get_eq_some_iff {entries : Named α} {name : String} {a : α} (distinct : (entries.map (·.1)).Nodup) :
    Named.get? name entries = some a ↔ (name, a) ∈ entries :=
  ⟨mem_of_get, get_of_mem distinct⟩

theorem get_eq_none {entries : Named α} {name : String} (unnamed : name ∉ entries.map (·.1)) :
    Named.get? name entries = none := by
  cases found : Named.get? name entries with
  | none => rfl
  | some a => exact absurd (List.mem_map.mpr ⟨_, mem_of_get found, rfl⟩) unnamed

/-- The order of entries with distinct names does not matter. -/
theorem get_of_perm {first second : Named α} {name : String} (distinct : (first.map (·.1)).Nodup)
    (reordered : first.Perm second) : Named.get? name first = Named.get? name second := by
  have distinctSecond : (second.map (·.1)).Nodup := (reordered.map _).nodup_iff.mp distinct
  apply Option.ext
  intro a
  rw [get_eq_some_iff distinct, get_eq_some_iff distinctSecond, reordered.mem_iff]

/-- Entries with the same names in the same order are the same when the same is
    found under each name. -/
theorem eq_of_get {first second : Named α} (distinct : (first.map (·.1)).Nodup)
    (names : first.map (·.1) = second.map (·.1)) (same : ∀ name, Named.get? name first = Named.get? name second) :
    first = second := by
  induction first generalizing second with
  | nil =>
    rw [List.map_nil, eq_comm, List.map_eq_nil_iff] at names
    exact names.symm
  | cons entry rest ih =>
    obtain ⟨key, a⟩ := entry
    cases second with
    | nil => cases names
    | cons entry others =>
      obtain ⟨other, b⟩ := entry
      simp only [List.map_cons, List.cons.injEq] at names
      obtain ⟨rfl, names⟩ := names
      rw [List.map_cons, List.nodup_cons] at distinct
      have values : a = b := by simpa [Named.get?] using same key
      have rests : rest = others := by
        apply ih distinct.2 names
        intro name
        by_cases here : key = name
        · subst here
          rw [get_eq_none distinct.1, get_eq_none (names ▸ distinct.1)]
        · simpa [Named.get?, here] using same name
      rw [values, rests]

/-! ## Entries that are put -/

theorem get_put (key name : String) (a : α) (entries : Named α) :
    Named.get? key (Named.put name a entries) = if key = name then some a else Named.get? key entries := by
  induction entries with
  | nil =>
    by_cases same : key = name
    · simp [Named.put, Named.get?, same]
    · simp [Named.put, Named.get?, same, Ne.symm same]
  | cons entry rest ih =>
    obtain ⟨other, b⟩ := entry
    by_cases here : other = name
    · subst here
      by_cases same : key = other
      · simp [Named.put, Named.get?, same]
      · simp [Named.put, Named.get?, same, Ne.symm same]
    · by_cases found : other = key
      · subst found
        simp [Named.put, Named.get?, here]
      · simp [Named.put, Named.get?, here, found, ih]

/-- A name that is new comes last, and one that is there keeps its place. -/
theorem names_put (name : String) (a : α) (entries : Named α) : (Named.put name a entries).map (·.1) =
    if name ∈ entries.map (·.1) then entries.map (·.1) else entries.map (·.1) ++ [name] := by
  induction entries with
  | nil => simp [Named.put]
  | cons entry rest ih =>
    obtain ⟨key, b⟩ := entry
    by_cases here : key = name
    · subst here
      simp [Named.put]
    · have other : name ≠ key := Ne.symm here
      by_cases inRest : name ∈ rest.map (·.1)
      · rw [if_pos inRest] at ih
        simp only [Named.put, here, ↓reduceIte, List.map_cons, List.mem_cons, inRest, or_true, ih]
      · rw [if_neg inRest] at ih
        simp only [Named.put, here, ↓reduceIte, List.map_cons, List.mem_cons, other, inRest, or_self, ih,
          List.cons_append]

theorem nodup_names_put {entries : Named α} (distinct : (entries.map (·.1)).Nodup) (name : String) (a : α) :
    ((Named.put name a entries).map (·.1)).Nodup := by
  rw [names_put]
  split
  · exact distinct
  · rename_i outside
    exact List.nodup_append.mpr ⟨distinct, by simp, by
      rintro key inside _ same rfl
      exact outside (List.mem_singleton.mp same ▸ inside)⟩

/-- Of entries with distinct names, put one after the other over others, those
    count first. -/
theorem get_foldl_put (key : String) {entries : Named α} (distinct : (entries.map (·.1)).Nodup) (base : Named α) :
    Named.get? key (entries.foldl (fun sofar entry => Named.put entry.1 entry.2 sofar) base) =
      (Named.get? key entries).or (Named.get? key base) := by
  induction entries generalizing base with
  | nil => rfl
  | cons entry rest ih =>
    obtain ⟨name, a⟩ := entry
    rw [List.map_cons, List.nodup_cons] at distinct
    rw [List.foldl_cons, ih distinct.2, get_put]
    by_cases same : key = name
    · subst same
      simp [Named.get?, get_eq_none distinct.1]
    · simp [Named.get?, same, Ne.symm same]

end CqlTable
