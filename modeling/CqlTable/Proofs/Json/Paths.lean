import CqlTable.Json.Parser
import CqlTable.Proofs.Named

/-!
# Paths: places in nested objects

A path of names leads from object to object (`at?`). It misses a document where
it comes to a name that the object there does not have (`Misses`); where it comes
to something that is no object it neither misses nor finds anything. Documents
that are read have objects with distinct names at every depth
(`hasDistinctNames_of_parse`).
-/

namespace CqlTable.Json

/-- The value at a path of names. -/
def at? : List String → Json → Option Json
  | [], j => some j
  | name :: path, j => (j.get? name).bind (at? path)

/-- The path comes to a name that is absent, and everything before it is an
    object. -/
def Misses (path : List String) (j : Json) : Prop :=
  ∃ before name after members, path = before ++ name :: after ∧ j.at? before = some (.object members) ∧
    Named.get? name members = none

/-- The names of the object at a path, in order; there are none where there is no
    object. -/
def namesAt (path : List String) (j : Json) : List String :=
  match j.at? path with
  | some (.object members) => members.map (·.1)
  | _ => []

/-- No object has two members of one name, at any depth. -/
def HasDistinctNames (j : Json) : Prop := ∀ path, (j.namesAt path).Nodup

variable {j value : Json} {name : String} {path : List String} {members : List (String × Json)}

/-- Documents by their members: what holds of everything that is no object, and of
    an object when it holds of its members, holds of all documents. -/
theorem members_induction {P : Json → Prop} (leaf : ∀ j, j.isObject = false → P j)
    (object : ∀ members, (∀ entry ∈ members, P entry.2) → P (.object members)) (j : Json) : P j :=
  @Json.rec P (fun _ => True) (fun members => ∀ entry ∈ members, P entry.2) (fun entry => P entry.2)
    (leaf _ rfl) (fun _ => leaf _ rfl) (fun _ => leaf _ rfl) (fun _ => leaf _ rfl) (fun _ _ => leaf _ rfl)
    (fun members each => object members each) trivial (fun _ _ _ _ => trivial) (fun _ inside => absurd inside (by simp))
    (fun _ _ first others => List.forall_mem_cons.mpr ⟨first, others⟩) (fun _ _ holds => holds) j

theorem exists_members (isObject : j.isObject = true) : ∃ members, j = .object members := by
  cases j with
  | object members => exact ⟨members, rfl⟩
  | _ => cases isObject

/-! ## Following a path -/

theorem at?_append (before after : List String) (j : Json) :
    j.at? (before ++ after) = (j.at? before).bind (at? after) := by
  induction before generalizing j with
  | nil => rfl
  | cons name rest ih =>
    rw [List.cons_append, at?, at?, Option.bind_assoc]
    apply Option.bind_congr
    intro value _
    exact ih value

theorem at?_cons_of_not_object (leaf : j.isObject = false) (name : String) (path : List String) :
    j.at? (name :: path) = none := by
  cases j with
  | object members => simp [isObject] at leaf
  | _ => rfl

theorem not_misses_nil (j : Json) : ¬ j.Misses [] := by
  rintro ⟨before, name, after, members, same, -⟩
  simp at same

theorem at?_of_misses (misses : j.Misses path) : j.at? path = none := by
  obtain ⟨before, name, after, members, rfl, found, absent⟩ := misses
  rw [at?_append, found, Option.bind_some, at?, get?, absent, Option.bind_none]

theorem misses_of_absent (absent : Named.get? name members = none) (path : List String) :
    (Json.object members).Misses (name :: path) :=
  ⟨[], name, path, members, rfl, rfl, absent⟩

theorem misses_cons_iff (found : Named.get? name members = some value) :
    (Json.object members).Misses (name :: path) ↔ value.Misses path := by
  have start (rest : List String) : (Json.object members).at? (name :: rest) = value.at? rest := by
    rw [at?, get?, found, Option.bind_some]
  constructor
  · rintro ⟨before, key, after, inner, same, reached, absent⟩
    cases before with
    | nil =>
      cases same
      cases reached
      rw [found] at absent
      cases absent
    | cons other before =>
      cases same
      rw [start] at reached
      exact ⟨before, key, after, inner, rfl, reached, absent⟩
  · rintro ⟨before, key, after, inner, rfl, reached, absent⟩
    refine ⟨name :: before, key, after, inner, rfl, ?_, absent⟩
    rw [start, reached]

theorem not_misses_of_not_object (leaf : j.isObject = false) (path : List String) : ¬ j.Misses path := by
  rintro ⟨before, name, after, members, same, reached, -⟩
  cases before with
  | nil =>
    cases reached
    simp [isObject] at leaf
  | cons other before =>
    rw [at?_cons_of_not_object leaf] at reached
    cases reached

/-! ## Distinct names -/

theorem namesAt_cons (found : Named.get? name members = some value) (path : List String) :
    (Json.object members).namesAt (name :: path) = value.namesAt path := by
  simp only [namesAt, at?, get?, found, Option.bind_some]

theorem namesAt_of_none (nothing : j.at? path = none) : j.namesAt path = [] := by
  rw [namesAt, nothing]

theorem namesAt_of_object (found : j.at? path = some (.object members)) : j.namesAt path = members.map (·.1) := by
  rw [namesAt, found]

theorem namesAt_of_no_object (none : ∀ members, j.at? path ≠ some (.object members)) : j.namesAt path = [] := by
  unfold namesAt
  split
  · rename_i members found
    exact absurd found (none members)
  · rfl

theorem hasDistinctNames_of_not_object (leaf : j.isObject = false) : j.HasDistinctNames := by
  intro path
  cases path with
  | nil => cases j <;> first | exact List.nodup_nil | simp [isObject] at leaf
  | cons name path =>
    rw [namesAt_of_none (at?_cons_of_not_object leaf name path)]
    exact List.nodup_nil

theorem hasDistinctNames_object_iff : (Json.object members).HasDistinctNames ↔
    (members.map (·.1)).Nodup ∧ ∀ name value, Named.get? name members = some value → value.HasDistinctNames := by
  constructor
  · intro distinct
    refine ⟨distinct [], ?_⟩
    intro name value found path
    rw [← namesAt_cons found path]
    exact distinct (name :: path)
  · rintro ⟨here, below⟩ path
    cases path with
    | nil => exact here
    | cons name path =>
      cases found : Named.get? name members with
      | none =>
        rw [namesAt_of_none (at?_of_misses (misses_of_absent found path))]
        exact List.nodup_nil
      | some value =>
        rw [namesAt_cons found]
        exact below name value found path

theorem HasDistinctNames.put (distinct : (Json.object members).HasDistinctNames) (also : value.HasDistinctNames)
    (name : String) : (Json.object (Named.put name value members)).HasDistinctNames := by
  rw [hasDistinctNames_object_iff] at distinct ⊢
  obtain ⟨here, below⟩ := distinct
  refine ⟨nodup_names_put here name value, ?_⟩
  intro key found isFound
  rw [get_put] at isFound
  by_cases same : key = name
  · rw [if_pos same] at isFound
    cases isFound
    exact also
  · rw [if_neg same] at isFound
    exact below key found isFound

/-! ## Documents that are read -/

theorem hasDistinctNames_empty : (Json.object []).HasDistinctNames :=
  hasDistinctNames_object_iff.mpr ⟨List.nodup_nil, nofun⟩

/-- A value that is read has distinct names, and members that are read after others
    keep them distinct. -/
theorem hasDistinctNames_from (fuel : Nat) :
    (∀ {cs rest j}, valueFrom fuel cs = some (j, rest) → j.HasDistinctNames) ∧
      ∀ {sofar cs rest members}, (Json.object sofar).HasDistinctNames →
        membersFrom fuel sofar cs = some (members, rest) → (Json.object members).HasDistinctNames := by
  induction fuel with
  | zero =>
    constructor
    · intro cs rest j read
      cases read
    · intro sofar cs rest members _ read
      cases read
  | succ fuel ih =>
    obtain ⟨values, others⟩ := ih
    constructor
    · intro cs rest j read
      unfold valueFrom at read
      split at read
      · split at read
        · cases read
          exact hasDistinctNames_empty
        · obtain ⟨⟨members, more⟩, isRead, same⟩ := Option.map_eq_some_iff.mp read
          cases same
          exact others hasDistinctNames_empty isRead
      -- Everything else that is read is no object.
      · split at read
        · cases read
          exact hasDistinctNames_of_not_object rfl
        · obtain ⟨⟨items, more⟩, -, same⟩ := Option.map_eq_some_iff.mp read
          cases same
          exact hasDistinctNames_of_not_object rfl
      · obtain ⟨⟨text, more⟩, -, same⟩ := Option.map_eq_some_iff.mp read
        cases same
        exact hasDistinctNames_of_not_object rfl
      iterate 3
        · obtain ⟨more, -, same⟩ := Option.map_eq_some_iff.mp read
          cases same
          exact hasDistinctNames_of_not_object rfl
      · obtain ⟨⟨number, more⟩, -, same⟩ := Option.map_eq_some_iff.mp read
        cases same
        exact hasDistinctNames_of_not_object rfl
    · intro sofar cs rest members distinct read
      unfold membersFrom at read
      split at read
      · split at read
        · cases read
        · split at read
          · split at read
            · cases read
            · rename_i value _ isRead
              have together := distinct.put (values isRead)
              split at read
              · cases read
                exact together _
              · exact others (together _) read
              · cases read
          · cases read
      · cases read

theorem hasDistinctNames_of_parse {text : String} (read : parse? text = some j) : j.HasDistinctNames := by
  unfold parse? at read
  split at read
  · rename_i document rest isRead
    split at read
    · cases read
      exact (hasDistinctNames_from _).1 isRead
    · cases read
  · cases read

end CqlTable.Json
