import CqlTable.Config.Loading
import CqlTable.Proofs.Json.Paths

/-!
# Merging: nothing is lost and nothing made up

What is under a name after a merge is decided by the two sides alone
(`get_mergeMembers`), and so is what stands at a path: the value of the override
merged into that of the base where the override has one, the value of the base
where the override misses the path, and nothing otherwise (`at?_mergeValue`). Names
of the base keep their order and come first (`names_mergeMembers`), and a second
merge with the same override changes nothing (`mergeMembers_again`).
-/

namespace CqlTable

open Json

variable {base override : List (String × Json)} {existing : Option Json} {value : Json}

/-! ## Names -/

theorem get_mergeMembers (distinct : (override.map (·.1)).Nodup) (base : List (String × Json)) (name : String) :
    Named.get? name (mergeMembers base override) =
      ((Named.get? name override).map (mergeValue (Named.get? name base))).or (Named.get? name base) := by
  induction override generalizing base with
  | nil => rfl
  | cons entry rest ih =>
    obtain ⟨key, value⟩ := entry
    rw [List.map_cons, List.nodup_cons] at distinct
    rw [mergeMembers, ih distinct.2, get_put]
    by_cases same : name = key
    · subst same
      simp [Named.get?, get_eq_none distinct.1]
    · simp [Named.get?, same, Ne.symm same]

theorem names_mergeMembers (distinct : (override.map (·.1)).Nodup) (base : List (String × Json)) :
    (mergeMembers base override).map (·.1) =
      base.map (·.1) ++ (override.map (·.1)).filter fun name => name ∉ base.map (·.1) := by
  induction override generalizing base with
  | nil => simp [mergeMembers]
  | cons entry rest ih =>
    obtain ⟨key, value⟩ := entry
    rw [List.map_cons, List.nodup_cons] at distinct
    rw [mergeMembers, ih distinct.2, names_put, List.map_cons]
    by_cases there : key ∈ base.map (·.1)
    · rw [if_pos there, List.filter_cons_of_neg (by simpa using there)]
    · have later : (rest.map (·.1)).filter (fun name => name ∉ base.map (·.1) ++ [key]) =
          (rest.map (·.1)).filter fun name => name ∉ base.map (·.1) := by
        apply List.filter_congr
        intro name inRest
        have other : name ≠ key := fun same => distinct.1 (same ▸ inRest)
        simp [other]
      rw [if_neg there, later, List.filter_cons_of_pos (by simpa using there), List.append_assoc, List.singleton_append]

theorem nodup_names_mergeMembers (distinct : (override.map (·.1)).Nodup) (baseDistinct : (base.map (·.1)).Nodup) :
    ((mergeMembers base override).map (·.1)).Nodup := by
  rw [names_mergeMembers distinct]
  refine baseDistinct.append (distinct.filter _) ?_
  intro name inBase isNew
  exact absurd inBase (by simpa using (List.mem_filter.mp isNew).2)

/-! ## Values -/

theorem mergeValue_of_leaf (leaf : value.isObject = false) (existing : Option Json) :
    mergeValue existing value = value := by
  cases value with
  | object members => simp [isObject] at leaf
  | _ => rfl

/-- Where the base has no object there is nothing to merge into. -/
theorem mergeValue_of_no_object (none : ∀ members, existing ≠ some (.object members)) : mergeValue existing = id := by
  funext value
  cases value with
  | object members =>
    cases existing with
    | none => rfl
    | some j =>
      cases j with
      | object base => exact absurd rfl (none base)
      | _ => rfl
  | _ => rfl

theorem mergeValue_none : mergeValue none = id := mergeValue_of_no_object (by simp)

theorem isObject_mergeValue (existing : Option Json) (value : Json) :
    (mergeValue existing value).isObject = value.isObject := by
  cases isObject : value.isObject with
  | false => rw [mergeValue_of_leaf isObject, isObject]
  | true =>
    obtain ⟨members, rfl⟩ := exists_members isObject
    unfold mergeValue
    split <;> rfl

theorem bind_at?_of_no_object (none : ∀ members, existing ≠ some (.object members)) (name : String)
    (path : List String) : existing.bind (at? (name :: path)) = Option.none := by
  cases existing with
  | none => rfl
  | some j =>
    cases j with
    | object members => exact absurd rfl (none members)
    | _ => rfl

/-- What stands at a path after a merge: the value of the base where the override
    misses the path, and otherwise the value of the override merged into that of the
    base. -/
theorem at?_mergeValue (distinct : value.HasDistinctNames) (existing : Option Json) (path : List String) :
    (value.Misses path → (mergeValue existing value).at? path = existing.bind (at? path)) ∧
      (¬ value.Misses path → (mergeValue existing value).at? path =
        (value.at? path).map (mergeValue (existing.bind (at? path)))) := by
  induction path generalizing existing value with
  | nil =>
    refine ⟨fun misses => absurd misses (not_misses_nil value), fun _ => ?_⟩
    cases existing <;> rfl
  | cons name path ih =>
    cases isObject : value.isObject with
    | false =>
      refine ⟨fun misses => absurd misses (not_misses_of_not_object isObject _), fun _ => ?_⟩
      rw [mergeValue_of_leaf isObject, at?_cons_of_not_object isObject, Option.map_none]
    | true =>
      obtain ⟨members, rfl⟩ := exists_members isObject
      by_cases merges : ∃ base, existing = some (.object base)
      · obtain ⟨base, rfl⟩ := merges
        obtain ⟨here, below⟩ := hasDistinctNames_object_iff.mp distinct
        simp only [mergeValue, Option.bind_some, at?, get?, get_mergeMembers here]
        cases found : Named.get? name members with
        | none =>
          refine ⟨fun _ => rfl, fun notMissed => absurd (misses_of_absent found path) notMissed⟩
        | some inner =>
          rw [misses_cons_iff found]
          exact ih (below name inner found) (Named.get? name base)
      · have none : ∀ base, existing ≠ some (.object base) := fun base isBase => merges ⟨base, isBase⟩
        have nothing : existing.bind (at? (name :: path)) = Option.none := bind_at?_of_no_object none name path
        rw [mergeValue_of_no_object none, nothing, mergeValue_none, Option.map_id]
        exact ⟨at?_of_misses, fun _ => rfl⟩

/-! ## Merging again -/

theorem mergeMembers_nil_left (distinct : (override.map (·.1)).Nodup) : mergeMembers [] override = override := by
  have names : (mergeMembers [] override).map (·.1) = override.map (·.1) := by
    rw [names_mergeMembers distinct]
    simp
  apply eq_of_get (names ▸ distinct) names
  intro name
  rw [get_mergeMembers distinct, Named.get?, mergeValue_none, Option.map_id, id, Option.or_none]

theorem mergeMembers_again_of_values (distinct : (override.map (·.1)).Nodup) (baseDistinct : (base.map (·.1)).Nodup)
    (values : ∀ name value, Named.get? name override = some value →
      mergeValue (some (mergeValue (Named.get? name base) value)) value = mergeValue (Named.get? name base) value) :
    mergeMembers (mergeMembers base override) override = mergeMembers base override := by
  have once := names_mergeMembers distinct base
  have known : ∀ name ∈ override.map (·.1), name ∈ (mergeMembers base override).map (·.1) := by
    intro name inside
    rw [once, List.mem_append, List.mem_filter]
    by_cases inBase : name ∈ base.map (·.1)
    · exact .inl inBase
    · exact .inr ⟨inside, by simpa using inBase⟩
  have names : (mergeMembers (mergeMembers base override) override).map (·.1) =
      (mergeMembers base override).map (·.1) := by
    rw [names_mergeMembers distinct, List.filter_eq_nil_iff.mpr (by simpa using known), List.append_nil]
  apply eq_of_get (names ▸ nodup_names_mergeMembers distinct baseDistinct) names
  intro name
  rw [get_mergeMembers distinct (mergeMembers base override)]
  cases found : Named.get? name override with
  | none => rfl
  | some value =>
    have merged : Named.get? name (mergeMembers base override) = some (mergeValue (Named.get? name base) value) := by
      rw [get_mergeMembers distinct, found]
      rfl
    rw [merged, Option.map_some, Option.some_or, values name value found]

theorem mergeValue_again (distinct : value.HasDistinctNames) (existingDistinct : ∀ j ∈ existing, j.HasDistinctNames) :
    mergeValue (some (mergeValue existing value)) value = mergeValue existing value := by
  induction value using members_induction generalizing existing with
  | leaf value isLeaf => rw [mergeValue_of_leaf isLeaf, mergeValue_of_leaf isLeaf]
  | object members ih =>
    obtain ⟨here, below⟩ := hasDistinctNames_object_iff.mp distinct
    have again {base : List (String × Json)} (baseDistinct : (Json.object base).HasDistinctNames) :
        mergeMembers (mergeMembers base members) members = mergeMembers base members := by
      obtain ⟨baseHere, baseBelow⟩ := hasDistinctNames_object_iff.mp baseDistinct
      apply mergeMembers_again_of_values here baseHere
      intro name value found
      exact ih _ (mem_of_get found) (below name value found) (baseBelow name)
    by_cases merges : ∃ base, existing = some (.object base)
    · obtain ⟨base, rfl⟩ := merges
      exact congrArg Json.object (again (existingDistinct _ rfl))
    · have none : ∀ base, existing ≠ some (.object base) := fun base isBase => merges ⟨base, isBase⟩
      have alone := again hasDistinctNames_empty
      rw [mergeMembers_nil_left here] at alone
      rw [mergeValue_of_no_object none]
      exact congrArg Json.object alone

/-! ## Objects by their paths -/

/-- The names of an object that is merged at a path. -/
theorem names_at_merged (distinct : (Json.object override).HasDistinctNames) {path : List String}
    {members : List (String × Json)}
    (found : (Json.object (mergeMembers base override)).at? path = some (.object members)) :
    members.map (·.1) = (Json.object base).namesAt path ++
      ((Json.object override).namesAt path).filter fun name => name ∉ (Json.object base).namesAt path := by
  obtain ⟨missed, met⟩ := at?_mergeValue distinct (some (.object base)) path
  simp only [mergeValue, Option.bind_some] at missed met
  by_cases misses : (Json.object override).Misses path
  · rw [missed misses] at found
    rw [namesAt_of_object found, namesAt_of_none (at?_of_misses misses), List.filter_nil, List.append_nil]
  · rw [met misses, Option.map_eq_some_iff] at found
    obtain ⟨value, isValue, merged⟩ := found
    have isObject : value.isObject = true := by rw [← isObject_mergeValue _ value, merged, isObject]
    obtain ⟨inner, rfl⟩ := exists_members isObject
    have innerDistinct : (inner.map (·.1)).Nodup := namesAt_of_object isValue ▸ distinct path
    rw [namesAt_of_object isValue]
    by_cases merges : ∃ outer, (Json.object base).at? path = some (.object outer)
    · obtain ⟨outer, isOuter⟩ := merges
      rw [isOuter] at merged
      cases merged
      rw [namesAt_of_object isOuter, names_mergeMembers innerDistinct]
    · have none : ∀ outer, (Json.object base).at? path ≠ some (.object outer) := fun outer isOuter =>
        merges ⟨outer, isOuter⟩
      rw [mergeValue_of_no_object none] at merged
      cases merged
      rw [namesAt_of_no_object none]
      simp

/-- A merge holds each value of the override at its path that is no object, and
    each such value of the base whose path the override misses; at the path of
    any other value of the base it holds what the override does. It holds no
    other values, and its objects have the names of the base in order and then
    the new ones of the override in order. Merging with an object without members
    changes nothing, and neither does merging again. -/
theorem objects_merged_by_path (baseDistinct : (Json.object base).HasDistinctNames)
    (distinct : (Json.object override).HasDistinctNames) :
    let merged : Json := .object (mergeMembers base override)
    (∀ path value, value.isObject = false →
      (Json.object override).at? path = some value → merged.at? path = some value) ∧
    (∀ path value, value.isObject = false → (Json.object base).at? path = some value →
      ((Json.object override).Misses path → merged.at? path = some value) ∧
      (¬ (Json.object override).Misses path → merged.at? path = (Json.object override).at? path)) ∧
    (∀ path value, value.isObject = false → merged.at? path = some value →
      (Json.object override).at? path = some value ∨
        ((Json.object override).Misses path ∧ (Json.object base).at? path = some value)) ∧
    (∀ path members, merged.at? path = some (.object members) → members.map (·.1) =
      (Json.object base).namesAt path ++
        ((Json.object override).namesAt path).filter fun name => name ∉ (Json.object base).namesAt path) ∧
    mergeMembers base [] = base ∧ mergeMembers [] override = override ∧
    mergeMembers (mergeMembers base override) override = mergeMembers base override := by
  intro merged
  obtain ⟨here, below⟩ := hasDistinctNames_object_iff.mp distinct
  have at_path (path : List String) :
      ((Json.object override).Misses path → merged.at? path = (Json.object base).at? path) ∧
      (¬ (Json.object override).Misses path → merged.at? path =
        ((Json.object override).at? path).map (mergeValue ((Json.object base).at? path))) :=
    at?_mergeValue distinct (some (.object base)) path
  have again : mergeValue (some merged) (.object override) = merged :=
    mergeValue_again distinct fun j isBase => Option.some.inj isBase ▸ baseDistinct
  refine ⟨?_, ?_, ?_, fun path members => names_at_merged distinct, rfl, mergeMembers_nil_left here,
    Json.object.inj again⟩
  · intro path value leaf found
    have notMissed : ¬ (Json.object override).Misses path := fun misses => by simp [at?_of_misses misses] at found
    rw [(at_path path).2 notMissed, found, Option.map_some, mergeValue_of_leaf leaf]
  · intro path value leaf found
    refine ⟨fun misses => (at_path path).1 misses ▸ found, fun notMissed => ?_⟩
    have replaced : mergeValue (some value) = id := by
      apply mergeValue_of_no_object
      rintro members ⟨⟩
      simp [isObject] at leaf
    rw [(at_path path).2 notMissed, found, replaced, Option.map_id, id]
  · intro path value leaf found
    by_cases misses : (Json.object override).Misses path
    · exact .inr ⟨misses, (at_path path).1 misses ▸ found⟩
    · rw [(at_path path).2 misses, Option.map_eq_some_iff] at found
      obtain ⟨other, isOther, rfl⟩ := found
      rw [isObject_mergeValue] at leaf
      rw [mergeValue_of_leaf leaf]
      exact .inl isOther

/-- An array gives way to an object without members, an object to a truth value, and
    a null to an object; only what the override misses stays. -/
theorem shadowed_values_merged :
    let base : List (String × Json) := [("hosts", .array [.string "a"]),
      ("retry", .object [("top", .null), ("name", .string "slow"), ("wait", .object [])])]
    let override : List (String × Json) := [("retry", .object [("wait", .boolean true),
      ("top", .object [("at", .string "3")])]), ("hosts", .object []), ("hue", .null)]
    let merged : Json := .object (mergeMembers base override)
    (Json.object base).HasDistinctNames ∧ (Json.object override).HasDistinctNames ∧
      merged.at? ["retry", "wait"] = some (.boolean true) ∧ merged.at? ["retry", "name"] = some (.string "slow") ∧
      merged.at? ["hosts"] = some (.object []) ∧
      merged.at? ["retry", "top"] = some (.object [("at", .string "3")]) ∧
      (mergeMembers base override).map (·.1) = ["hosts", "retry", "hue"] ∧
      mergeMembers (mergeMembers base override) override = mergeMembers base override := by
  intro base override merged
  have baseRead :
      parse? "\x7b\"hosts\":[\"a\"],\"retry\":\x7b\"top\":null,\"name\":\"slow\",\"wait\":\x7b\x7d\x7d\x7d" =
      some (.object base) := by
    cbv
  have read :
      parse? "\x7b\"retry\":\x7b\"wait\":true,\"top\":\x7b\"at\":\"3\"\x7d\x7d,\"hosts\":\x7b\x7d,\"hue\":null\x7d" =
      some (.object override) := by
    cbv
  have baseDistinct := hasDistinctNames_of_parse baseRead
  have distinct := hasDistinctNames_of_parse read
  obtain ⟨given, kept, -, names, -, -, again⟩ := objects_merged_by_path baseDistinct distinct
  have missed : (Json.object override).Misses ["retry", "name"] := ⟨["retry"], "name", [], _, rfl, rfl, rfl⟩
  have met {path : List String} {value : Json} (found : (Json.object override).at? path = some value) :
      ¬ (Json.object override).Misses path := fun misses => by simp [at?_of_misses misses] at found
  refine ⟨baseDistinct, distinct, given _ _ rfl rfl, (kept _ _ rfl rfl).1 missed, ?_, ?_, names [] _ rfl, again⟩
  · exact (kept _ _ rfl rfl).2 (met rfl)
  · exact (kept _ _ rfl rfl).2 (met rfl)

end CqlTable
