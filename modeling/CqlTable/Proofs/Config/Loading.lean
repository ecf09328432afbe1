import CqlTable.Proofs.Config.Merging
import CqlTable.Proofs.Config.Settings

/-!
# Loading: only the first file and only known keys count

Settings are loaded from the first path that exists and from no other
(`loadConfig_of_isFirst`). Where two loads agree on the settings in the file and in
the overrides they have the same outcome, whatever other keys there are
(`loadFile_outcome_congr`); each of these is warned about once, in order
(`logs_loadFile`).
-/

namespace CqlTable

variable {files : Files} {paths : List String} {path : String} {text : Option String}
  {members other overrides otherOverrides : List (String × Json)}

/-! ## The first path -/

/-- The path is the first of all that exists, and its file has the text; a directory
    has none. -/
def IsFirst (files : Files) (paths : List String) (path : String) (text : Option String) : Prop :=
  ∃ before after, paths = before ++ path :: after ∧ (∀ missing ∈ before, Named.get? missing files = none) ∧
    Named.get? path files = some text

/-- The text is that of an object with these members. -/
def HoldsObject (text : Option String) (members : List (String × Json)) : Prop :=
  ∃ s, text = some s ∧ Json.parse? s = some (.object members)

/-- Loading fails without issues and writes nothing. -/
def Loading.FailsPlainly (loading : Loading) : Prop :=
  ∃ error, loading = ⟨.error error, []⟩ ∧ error.issues = []

theorem findSome?_of_missing (missing : ∀ path ∈ paths, Named.get? path files = none) :
    paths.findSome? (fun path => (Named.get? path files).map fun text => (path, text)) = none := by
  rw [List.findSome?_eq_none_iff]
  intro path inside
  rw [missing path inside]
  rfl

theorem loadConfig_of_isFirst (first : IsFirst files paths path text) (overrides : List (String × Json)) :
    loadConfig files paths overrides = loadFile path text overrides := by
  obtain ⟨before, after, rfl, missing, present⟩ := first
  have here : (Named.get? path files).map (fun text => (path, text)) = some (path, text) := by
    rw [present]
    rfl
  rw [loadConfig, List.findSome?_append, findSome?_of_missing missing, Option.none_or, List.findSome?_cons, here]
  simp

theorem loadConfig_of_missing (missing : ∀ path ∈ paths, Named.get? path files = none)
    (overrides : List (String × Json)) : (loadConfig files paths overrides).FailsPlainly := by
  unfold loadConfig
  split
  · exact ⟨_, rfl, rfl⟩
  · rw [findSome?_of_missing missing]
    exact ⟨_, rfl, rfl⟩

theorem readObject_eq_ok_iff : readObject path text = .ok members ↔ HoldsObject text members := by
  unfold readObject HoldsObject
  cases text with
  | none => simp
  | some s =>
    cases read : Json.parse? s with
    | none => simp [read]
    | some document => cases document <;> simp [read]

theorem issues_of_readObject {error : ConfigurationError} (read : readObject path text = .error error) :
    error.issues = [] := by
  unfold readObject at read
  split at read
  · cases read
    rfl
  · split at read <;> cases read <;> rfl

theorem loadFile_of_no_object (bad : ∀ members, ¬ HoldsObject text members) (path : String)
    (overrides : List (String × Json)) : (loadFile path text overrides).FailsPlainly := by
  cases read : readObject path text with
  | ok members => exact absurd (readObject_eq_ok_iff.mp read) (bad members)
  | error error => exact ⟨error, by rw [loadFile, read], issues_of_readObject read⟩

/-! ## Settings and other keys -/

/-- The documents have the same settings; they may have any other keys. -/
def SameSettings (members other : List (String × Json)) : Prop :=
  ∀ name ∈ Config.names, Named.get? name members = Named.get? name other

/-- The settings that were loaded, or the issues of the error. -/
def Loading.outcome (loading : Loading) : Except (List String) Config :=
  loading.result.mapError ConfigurationError.issues

/-- Keys that are no settings: those of the file in order, and then those that only
    the overrides have. -/
def unknownKeys (members overrides : List (String × Json)) : List String :=
  (members.map (·.1) ++ (overrides.map (·.1)).filter fun name => name ∉ members.map (·.1)).filter fun name =>
    name ∉ Config.names

/-- The warning about a key. -/
def unknownKeyWarning (source key : String) : LogRecord :=
  ⟨.warn, loadingWriter, some [("key", .string key), ("source", .string source)],
    "Ignoring unknown config key \"" ++ key ++ "\""⟩

theorem SameSettings.merge (distinct : (overrides.map (·.1)).Nodup) (otherDistinct : (otherOverrides.map (·.1)).Nodup)
    (same : SameSettings members other) (sameOverrides : SameSettings overrides otherOverrides) :
    SameSettings (mergeMembers members overrides) (mergeMembers other otherOverrides) := by
  intro name isSetting
  rw [get_mergeMembers distinct, get_mergeMembers otherDistinct, same name isSetting, sameOverrides name isSetting]

theorem loadFile_outcome_congr {otherPath : String} {otherText : Option String} (holds : HoldsObject text members)
    (otherHolds : HoldsObject otherText other) (distinct : (overrides.map (·.1)).Nodup)
    (otherDistinct : (otherOverrides.map (·.1)).Nodup) (same : SameSettings members other)
    (sameOverrides : SameSettings overrides otherOverrides) :
    (loadFile path text overrides).outcome = (loadFile otherPath otherText otherOverrides).outcome := by
  have merged := same.merge distinct otherDistinct sameOverrides
  rw [loadFile, loadFile, readObject_eq_ok_iff.mpr holds, readObject_eq_ok_iff.mpr otherHolds]
  simp only [Config.ofJson_congr merged]
  -- The two sides differ in the source that errors name.
  unfold Config.ofJson
  cases Config.check [] (.object (mergeMembers other otherOverrides)) <;> rfl

theorem logs_loadFile (holds : HoldsObject text members) (distinct : (overrides.map (·.1)).Nodup) (path : String) :
    ∃ more, (loadFile path text overrides).logs = (unknownKeys members overrides).map (unknownKeyWarning path) ++ more ∧
      ∀ record ∈ more, record.level ≠ .warn := by
  have warnings : unknownKeyWarnings path (mergeMembers members overrides) =
      (unknownKeys members overrides).map (unknownKeyWarning path) := by
    have isUnknown : (fun entry : String × Json => !Config.names.contains entry.1) =
        (fun name => decide (name ∉ Config.names)) ∘ (·.1) := by
      funext entry
      simp
    rw [unknownKeys, ← names_mergeMembers distinct, List.filter_map, List.map_map, unknownKeyWarnings, isUnknown]
    rfl
  rw [loadFile, readObject_eq_ok_iff.mpr holds]
  simp only [warnings]
  split
  · exact ⟨[], by simp, by simp⟩
  · exact ⟨_, rfl, by simp⟩

theorem nodup_unknownKeys (holds : HoldsObject text members) (distinct : (overrides.map (·.1)).Nodup) :
    (unknownKeys members overrides).Nodup := by
  obtain ⟨s, -, read⟩ := holds
  have here : (members.map (·.1)).Nodup := Json.hasDistinctNames_of_parse read []
  rw [unknownKeys, ← names_mergeMembers distinct]
  exact (nodup_names_mergeMembers distinct here).filter _

/-! ## Loading -/

/-- Loading fails where no path exists, and otherwise depends on the first one that
    does, on what it holds and on the overrides; it fails where that is no object.
    Of the object and of the overrides only the settings decide on what is loaded
    and on the issues, and each other key has one warning, in order, also where
    the settings are refused. The path itself is only named in records and errors. -/
theorem unknown_keys_inert (files : Files) (paths : List String) {overrides : List (String × Json)}
    (distinct : (overrides.map (·.1)).Nodup) :
    ((∀ path ∈ paths, Named.get? path files = none) → (loadConfig files paths overrides).FailsPlainly) ∧
    ∀ path text, IsFirst files paths path text →
      (∀ others otherPaths, IsFirst others otherPaths path text →
        loadConfig others otherPaths overrides = loadConfig files paths overrides) ∧
      ((∀ members, ¬ HoldsObject text members) → (loadConfig files paths overrides).FailsPlainly) ∧
      ∀ members, HoldsObject text members →
        (∀ others otherPaths otherPath otherText otherMembers otherOverrides,
          IsFirst others otherPaths otherPath otherText → HoldsObject otherText otherMembers →
          (otherOverrides.map (·.1)).Nodup → SameSettings members otherMembers →
          SameSettings overrides otherOverrides →
          (loadConfig others otherPaths otherOverrides).outcome = (loadConfig files paths overrides).outcome) ∧
        (unknownKeys members overrides).Nodup ∧
        ∃ more, (loadConfig files paths overrides).logs =
            (unknownKeys members overrides).map (unknownKeyWarning path) ++ more ∧
          ∀ record ∈ more, record.level ≠ .warn := by
  refine ⟨fun missing => loadConfig_of_missing missing overrides, ?_⟩
  intro path text first
  rw [loadConfig_of_isFirst first]
  refine ⟨?_, fun bad => loadFile_of_no_object bad path overrides, ?_⟩
  · intro others otherPaths otherFirst
    exact loadConfig_of_isFirst otherFirst overrides
  · intro members holds
    refine ⟨?_, nodup_unknownKeys holds distinct, logs_loadFile holds distinct path⟩
    intro others otherPaths otherPath otherText otherMembers otherOverrides otherFirst otherHolds otherDistinct same
      sameOverrides
    rw [loadConfig_of_isFirst otherFirst]
    exact (loadFile_outcome_congr holds otherHolds distinct otherDistinct same sameOverrides).symm

/-- A key of the file and one that only the overrides have are warned about although
    the settings are refused; without them there are the same issues, and the
    second file, which is valid, does not count. -/
theorem unknown_keys_of_refused :
    let files : Files := [("second.json", some "\x7b\x7d"),
      ("first.json", some "\x7b\"colour\":null,\"port\":\"high\"\x7d")]
    let plainFiles : Files := [("first.json", some "\x7b\"port\":\"high\"\x7d")]
    let paths := ["missing.json", "first.json", "second.json"]
    let overrides : List (String × Json) := [("shade", .boolean true), ("verbose", .boolean true), ("colour", .null)]
    let loaded := loadConfig files paths overrides
    (overrides.map (·.1)).Nodup ∧
      (loadConfig plainFiles paths [("verbose", .boolean true)]).outcome = loaded.outcome ∧
      ∃ more, loaded.logs = [unknownKeyWarning "first.json" "colour", unknownKeyWarning "first.json" "shade"] ++ more ∧
        ∀ record ∈ more, record.level ≠ .warn := by
  intro files plainFiles paths overrides loaded
  have distinct : (overrides.map (·.1)).Nodup := by decide
  have first : IsFirst files paths "first.json" (some "\x7b\"colour\":null,\"port\":\"high\"\x7d") :=
    ⟨["missing.json"], ["second.json"], rfl, by simp [files, Named.get?], rfl⟩
  have plainFirst : IsFirst plainFiles paths "first.json" (some "\x7b\"port\":\"high\"\x7d") :=
    ⟨["missing.json"], ["second.json"], rfl, by simp [plainFiles, Named.get?], rfl⟩
  have holds : HoldsObject (some "\x7b\"colour\":null,\"port\":\"high\"\x7d")
      [("colour", .null), ("port", .string "high")] := ⟨_, rfl, by cbv⟩
  have plainHolds : HoldsObject (some "\x7b\"port\":\"high\"\x7d") [("port", .string "high")] := ⟨_, rfl, by cbv⟩
  obtain ⟨inert, -, warned⟩ := ((unknown_keys_inert files paths distinct).2 _ _ first).2.2 _ holds
  refine ⟨distinct, ?_, warned⟩
  apply inert _ _ _ _ _ _ plainFirst plainHolds (by decide)
  · simp [SameSettings, Config.names, Named.get?]
  · simp [SameSettings, Config.names, Named.get?, overrides]

end CqlTable
