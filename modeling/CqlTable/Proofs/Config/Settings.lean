import CqlTable.Proofs.Config.Parameters
import CqlTable.Proofs.Named
import CqlTable.Proofs.Schema.Accepted

/-!
# Settings: what parameters change

Settings are read member by member (`checkMembers_eq_valid`), and nothing but the
members counts (`checkMembers_congr`). Settings that are valid are read back from
their own members as they are (`ofJson_members`), so parameters put over settings
change what they name and nothing else (`applyParams_eq`).
-/

namespace CqlTable

namespace Config

/-! ## Reading settings -/

/-- Settings that a document can have. -/
structure Valid (c : Config) : Prop where
  hosts : c.hosts ≠ [] ∧ ∀ host ∈ c.hosts, host ≠ ""
  port : portRange.1 ≤ c.port ∧ c.port ≤ portRange.2
  keyspace : isIdentifier c.keyspace = true
  table : ∀ table, c.table = some table → isIdentifier table = true
  replicationFactor : 1 ≤ c.replicationFactor ∧ IsExact c.replicationFactor
  localDataCenter : c.localDataCenter ≠ ""
  connectTimeoutMs : 0 < c.connectTimeoutMs ∧ IsExact c.connectTimeoutMs
  requestTimeoutMs : 0 < c.requestTimeoutMs ∧ IsExact c.requestTimeoutMs

/-- Each member of the document, or its default, is the one of the settings. -/
structure ReadFrom (path : List String) (j : Json) (c : Config) : Prop where
  hosts : Check.defaulted j path "hosts" ["127.0.0.1"] (Check.nonEmptyList Check.nonEmptyText) = .valid c.hosts
  port : Check.defaulted j path "port" 9042 (Check.integer (.atLeast portRange.1) (some portRange.2)) = .valid c.port
  keyspace : Check.defaulted j path "keyspace" "cqlbridge" Check.identifier = .valid c.keyspace
  table : Check.optional j path "table" Check.identifier = .valid c.table
  verbose : Check.defaulted j path "verbose" false Check.flag = .valid c.verbose
  allowFiltering : Check.defaulted j path "allowFiltering" true Check.flag = .valid c.allowFiltering
  replicationFactor : Check.defaulted j path "replicationFactor" defaultReplicas (Check.integer (.atLeast 1) none) =
    .valid c.replicationFactor
  localDataCenter : Check.defaulted j path "localDataCenter" "datacenter1" Check.nonEmptyText =
    .valid c.localDataCenter
  username : Check.optional j path "username" Check.anyText = .valid c.username
  password : Check.optional j path "password" Check.anyText = .valid c.password
  connectTimeoutMs : Check.defaulted j path "connectTimeoutMs" 10000 (Check.integer .positive none) =
    .valid c.connectTimeoutMs
  requestTimeoutMs : Check.defaulted j path "requestTimeoutMs" 10000 (Check.integer .positive none) =
    .valid c.requestTimeoutMs
  timestampZone : Check.defaulted j path "timestampZone" .local (Check.choice zoneChoices) = .valid c.timestampZone
  strictDecoding : Check.defaulted j path "strictDecoding" false Check.flag = .valid c.strictDecoding
  rejectUnsupportedTypes : Check.defaulted j path "rejectUnsupportedTypes" false Check.flag =
    .valid c.rejectUnsupportedTypes

theorem checkMembers_eq_valid {path : List String} {j : Json} {c : Config} :
    checkMembers path j = .valid c ↔ ReadFrom path j c := by
  constructor
  · intro valid
    obtain ⟨_, rejectUnsupportedTypes, valid14, isRejectUnsupportedTypes, rfl⟩ := Checked.ap_eq_valid.mp valid
    obtain ⟨_, strictDecoding, valid13, isStrictDecoding, rfl⟩ := Checked.ap_eq_valid.mp valid14
    obtain ⟨_, timestampZone, valid12, isTimestampZone, rfl⟩ := Checked.ap_eq_valid.mp valid13
    obtain ⟨_, requestTimeoutMs, valid11, isRequestTimeoutMs, rfl⟩ := Checked.ap_eq_valid.mp valid12
    obtain ⟨_, connectTimeoutMs, valid10, isConnectTimeoutMs, rfl⟩ := Checked.ap_eq_valid.mp valid11
    obtain ⟨_, password, valid9, isPassword, rfl⟩ := Checked.ap_eq_valid.mp valid10
    obtain ⟨_, username, valid8, isUsername, rfl⟩ := Checked.ap_eq_valid.mp valid9
    obtain ⟨_, localDataCenter, valid7, isLocalDataCenter, rfl⟩ := Checked.ap_eq_valid.mp valid8
    obtain ⟨_, replicationFactor, valid6, isReplicationFactor, rfl⟩ := Checked.ap_eq_valid.mp valid7
    obtain ⟨_, allowFiltering, valid5, isAllowFiltering, rfl⟩ := Checked.ap_eq_valid.mp valid6
    obtain ⟨_, verbose, valid4, isVerbose, rfl⟩ := Checked.ap_eq_valid.mp valid5
    obtain ⟨_, table, valid3, isTable, rfl⟩ := Checked.ap_eq_valid.mp valid4
    obtain ⟨_, keyspace, valid2, isKeyspace, rfl⟩ := Checked.ap_eq_valid.mp valid3
    obtain ⟨_, port, valid1, isPort, rfl⟩ := Checked.ap_eq_valid.mp valid2
    obtain ⟨_, hosts, made, isHosts, rfl⟩ := Checked.ap_eq_valid.mp valid1
    cases made
    exact ⟨isHosts, isPort, isKeyspace, isTable, isVerbose, isAllowFiltering, isReplicationFactor, isLocalDataCenter,
      isUsername, isPassword, isConnectTimeoutMs, isRequestTimeoutMs, isTimestampZone, isStrictDecoding,
      isRejectUnsupportedTypes⟩
  · intro read
    rw [checkMembers, read.hosts, read.port, read.keyspace, read.table, read.verbose, read.allowFiltering,
      read.replicationFactor, read.localDataCenter, read.username, read.password, read.connectTimeoutMs,
      read.requestTimeoutMs, read.timestampZone, read.strictDecoding, read.rejectUnsupportedTypes]
    rfl

theorem checkMembers_congr {j other : Json} (same : ∀ name ∈ names, j.get? name = other.get? name)
    (path : List String) : checkMembers path j = checkMembers path other := by
  simp only [names, List.forall_mem_cons] at same
  simp only [checkMembers, Check.defaulted, Check.optional, Check.member, same]

theorem ofJson_eq_ok {source : String} {j : Json} {c : Config} :
    ofJson source j = .ok c ↔ j.isObject = true ∧ ReadFrom [] j c := by
  unfold ofJson check
  cases j with
  | object members =>
    rw [← checkMembers_eq_valid]
    cases checkMembers [] (.object members) <;> simp [Json.isObject]
  | _ => simp [Check.wrongKind, Checked.refuse, Json.isObject]

theorem ofJson_congr {members other : List (String × Json)}
    (same : ∀ name ∈ names, Named.get? name members = Named.get? name other) (source : String) :
    ofJson source (.object members) = ofJson source (.object other) := by
  have sameMembers : ∀ name ∈ names, (Json.object members).get? name = (Json.object other).get? name := same
  simp only [ofJson, check, checkMembers_congr sameMembers]

/-! ## What is read is valid -/

theorem integer_valid {lower : LowerBound} {greatest : Option Int} {path : List String} {j : Json} {name : String}
    {value n : Nat} (read : Check.defaulted j path name value (Check.integer lower greatest) = .valid n)
    (natural : ¬ lower.Admits (-1))
    (isDefault : lower.Admits value ∧ (∀ g ∈ greatest, (value : Int) ≤ g) ∧ value ≤ Double.greatestExact) :
    lower.Admits n ∧ (∀ g ∈ greatest, (n : Int) ≤ g) ∧ IsExact n := by
  rcases Check.defaulted_eq_valid.mp read with ⟨_, rfl⟩ | ⟨found, _, isNumber⟩
  · obtain ⟨low, high, small⟩ := isDefault
    exact ⟨low, high, isExact_of_le small⟩
  · obtain ⟨d, _, integer, low, high⟩ := (Check.integer_eq_valid natural).mp isNumber
    exact ⟨low, high, isExact_of_toInt integer⟩

theorem timeout_valid {path : List String} {j : Json} {name : String} {n : Nat}
    (read : Check.defaulted j path name 10000 (Check.integer .positive none) = .valid n) : 0 < n ∧ IsExact n := by
  obtain ⟨low, _, exact⟩ := integer_valid read (by decide) (by decide)
  exact ⟨Int.natCast_pos.mp low, exact⟩

theorem texts_nonEmpty {js : List Json} {texts : List String}
    (each : List.Forall₂ (fun j text => ∃ place, Check.nonEmptyText place j = .valid text) js texts) :
    ∀ text ∈ texts, text ≠ "" := by
  induction each with
  | nil => simp
  | cons first _ ih =>
    obtain ⟨place, isText⟩ := first
    exact List.forall_mem_cons.mpr ⟨(Check.nonEmptyText_eq_valid.mp isText).2, ih⟩

theorem ReadFrom.valid {path : List String} {j : Json} {c : Config} (read : ReadFrom path j c) : c.Valid where
  hosts := by
    rcases Check.defaulted_eq_valid.mp read.hosts with ⟨_, same⟩ | ⟨found, _, isHosts⟩
    · rw [← same]
      decide
    · obtain ⟨some, js, _, each⟩ := Check.nonEmptyList_eq_valid isHosts
      exact ⟨some, texts_nonEmpty each⟩
  port := by
    obtain ⟨low, high, _⟩ := integer_valid read.port (by decide) (by decide)
    exact ⟨Int.ofNat_le.mp low, Int.ofNat_le.mp (high _ rfl)⟩
  keyspace := by
    rcases Check.defaulted_eq_valid.mp read.keyspace with ⟨_, same⟩ | ⟨found, _, isKeyspace⟩
    · rw [← same]
      decide
    · exact (Check.identifier_eq_valid.mp isKeyspace).2
  table := by
    intro table isTable
    rcases Check.optional_eq_valid.mp read.table with ⟨_, absent⟩ | ⟨_, name, _, isName, same⟩
    · simp [absent] at isTable
    · rw [same, Option.some.injEq] at isTable
      exact isTable ▸ (Check.identifier_eq_valid.mp isName).2
  replicationFactor := by
    obtain ⟨low, _, exact⟩ :=
      integer_valid read.replicationFactor (by decide) (by decide)
    exact ⟨Int.ofNat_le.mp low, exact⟩
  localDataCenter := by
    rcases Check.defaulted_eq_valid.mp read.localDataCenter with ⟨_, same⟩ | ⟨found, _, isText⟩
    · rw [← same]
      decide
    · exact (Check.nonEmptyText_eq_valid.mp isText).2
  connectTimeoutMs := timeout_valid read.connectTimeoutMs
  requestTimeoutMs := timeout_valid read.requestTimeoutMs

/-! ## Settings as a document -/

/-- An entry of the name when there is a value for it. -/
def entry (setting : String × Option Json) : List (String × Json) := (setting.2.map (setting.1, ·)).toList

theorem get_entry (name : String) (setting : String × Option Json) :
    Named.get? name (entry setting) = if setting.1 = name then setting.2 else none := by
  obtain ⟨key, value⟩ := setting
  cases value <;> simp [entry, Named.get?]

theorem get_entries (name : String) {settings : List (String × Option Json)}
    (distinct : (settings.map (·.1)).Nodup) :
    Named.get? name (settings.flatMap entry) = (Named.get? name settings).join := by
  induction settings with
  | nil => rfl
  | cons setting rest ih =>
    rw [List.map_cons, List.nodup_cons] at distinct
    rw [List.flatMap_cons, get_append, get_entry, ih distinct.2, Named.get?]
    by_cases here : setting.1 = name
    · subst here
      simp [get_eq_none distinct.1]
    · simp [here]

theorem names_entries (settings : List (String × Option Json)) :
    ((settings.flatMap entry).map (·.1)).Sublist (settings.map (·.1)) := by
  induction settings with
  | nil => exact .slnil
  | cons setting rest ih =>
    obtain ⟨name, value⟩ := setting
    cases value with
    | none => exact .cons _ ih
    | some _ => exact .cons_cons _ ih

/-- The settings under their names. -/
def values (c : Config) : List (String × Option Json) :=
  [("hosts", some (.ofTexts c.hosts)), ("port", some (.ofNat c.port)), ("keyspace", some (.string c.keyspace)),
    ("table", c.table.map .string), ("verbose", some (.boolean c.verbose)),
    ("allowFiltering", some (.boolean c.allowFiltering)), ("replicationFactor", some (.ofNat c.replicationFactor)),
    ("localDataCenter", some (.string c.localDataCenter)), ("username", c.username.map .string),
    ("password", c.password.map .string), ("connectTimeoutMs", some (.ofNat c.connectTimeoutMs)),
    ("requestTimeoutMs", some (.ofNat c.requestTimeoutMs)), ("timestampZone", some (.string (zoneName c.timestampZone))),
    ("strictDecoding", some (.boolean c.strictDecoding)),
    ("rejectUnsupportedTypes", some (.boolean c.rejectUnsupportedTypes))]

theorem names_values (c : Config) : c.values.map (·.1) = names := rfl

theorem get_members (name : String) (c : Config) :
    Named.get? name c.members = (Named.get? name c.values).join := by
  have entries : c.members = c.values.flatMap entry := by
    unfold members values
    cases c.table <;> cases c.username <;> cases c.password <;> rfl
  have distinct : (c.values.map (·.1)).Nodup := names_values c ▸ by decide
  rw [entries, get_entries name distinct]

theorem defaulted_of_values {α : Type} {c : Config} {name : String} {value : Json}
    (found : Named.get? name c.values = some (some value)) (path : List String) (otherwise : α) (check : Check α) :
    Check.defaulted (.object c.members) path name otherwise check = check (path ++ [name]) value := by
  have here : (Json.object c.members).get? name = some value := by rw [Json.get?, get_members, found]; rfl
  simp only [Check.defaulted, Check.member, here]

theorem optional_of_values {c : Config} {name : String} {text : Option String}
    (found : Named.get? name c.values = some (text.map .string)) {path : List String} {check : Check String}
    (accepted : ∀ s, text = some s → check (path ++ [name]) (.string s) = .valid s) :
    Check.optional (.object c.members) path name check = .valid text := by
  have here : (Json.object c.members).get? name = text.map .string := by rw [Json.get?, get_members, found]; rfl
  rw [Check.optional_eq_valid, here]
  cases text with
  | none => exact .inl ⟨rfl, rfl⟩
  | some s => exact .inr ⟨_, s, rfl, accepted s rfl, rfl⟩

theorem integer_of_exact {lower : LowerBound} {greatest : Option Int} {n : Nat}
    (natural : ¬ lower.Admits (-1)) (low : lower.Admits n) (high : ∀ g ∈ greatest, (n : Int) ≤ g)
    (exact : IsExact n) (path : List String) : Check.integer lower greatest path (.ofNat n) = .valid n :=
  (Check.integer_eq_valid natural).mpr ⟨_, rfl, exact, low, high⟩

theorem ReadFrom.of_valid {c : Config} (valid : c.Valid) (path : List String) :
    ReadFrom path (.object c.members) c where
  hosts := by
    obtain ⟨some, nonEmpty⟩ := valid.hosts
    have each : List.Forall₂ (fun host j => ∀ path, (Check.nonEmptyText path j).ValidWhen (host ≠ "") host)
        c.hosts (c.hosts.map .string) :=
      List.forall₂_map_right_iff.mpr (List.forall₂_same.mpr fun host _ place => Check.nonEmptyText_validWhen place host)
    rw [defaulted_of_values rfl, Json.ofTexts, Check.nonEmptyList_of_ne_nil (by simpa using some),
      (Check.items_validWhen each _ 0).valid nonEmpty, List.map_id']
  port := by
    obtain ⟨low, high⟩ := valid.port
    have small : c.port ≤ Double.greatestExact := le_trans high (by decide)
    rw [defaulted_of_values rfl]
    exact integer_of_exact (by decide) (by simpa [LowerBound.Admits] using low) (by simpa using high)
      (isExact_of_le small) _
  keyspace := by
    rw [defaulted_of_values rfl, Check.identifier_eq_valid]
    exact ⟨rfl, valid.keyspace⟩
  table := optional_of_values rfl fun name isTable => Check.identifier_eq_valid.mpr ⟨rfl, valid.table name isTable⟩
  verbose := by
    rw [defaulted_of_values rfl]
    rfl
  allowFiltering := by
    rw [defaulted_of_values rfl]
    rfl
  replicationFactor := by
    obtain ⟨low, exact⟩ := valid.replicationFactor
    rw [defaulted_of_values rfl]
    exact integer_of_exact (by decide) (by simpa [LowerBound.Admits] using low) (by simp) exact _
  localDataCenter := by
    rw [defaulted_of_values rfl, Check.nonEmptyText_eq_valid]
    exact ⟨rfl, valid.localDataCenter⟩
  username := optional_of_values rfl fun _ _ => rfl
  password := optional_of_values rfl fun _ _ => rfl
  connectTimeoutMs := by
    obtain ⟨positive, exact⟩ := valid.connectTimeoutMs
    rw [defaulted_of_values rfl]
    exact integer_of_exact (by decide) (by simpa [LowerBound.Admits] using positive) (by simp) exact _
  requestTimeoutMs := by
    obtain ⟨positive, exact⟩ := valid.requestTimeoutMs
    rw [defaulted_of_values rfl]
    exact integer_of_exact (by decide) (by simpa [LowerBound.Admits] using positive) (by simp) exact _
  timestampZone := by
    rw [defaulted_of_values rfl]
    cases c.timestampZone <;> rfl
  strictDecoding := by
    rw [defaulted_of_values rfl]
    rfl
  rejectUnsupportedTypes := by
    rw [defaulted_of_values rfl]
    rfl

theorem ofJson_members {c : Config} (valid : c.Valid) (source : String) :
    ofJson source (.object c.members) = .ok c :=
  ofJson_eq_ok.mpr ⟨rfl, .of_valid valid []⟩

/-- The names that settings have as a document are those that are read from it. -/
theorem ReadFrom.names_eq {path : List String} {c result : Config} (read : ReadFrom path (.object c.members) result) :
    result.keyspace = c.keyspace ∧ result.table = c.table := by
  constructor
  · have keyspace := read.keyspace
    rw [defaulted_of_values rfl, Check.identifier_eq_valid, Json.string.injEq] at keyspace
    exact keyspace.1.symm
  · have here : (Json.object c.members).get? "table" = c.table.map .string := by rw [Json.get?, get_members]; rfl
    rcases Check.optional_eq_valid.mp read.table with ⟨absent, isNone⟩ | ⟨found, name, present, isName, isSome⟩
    · rw [here, Option.map_eq_none_iff] at absent
      rw [isNone, absent]
    · rw [here, (Check.identifier_eq_valid.mp isName).1, Option.map_eq_some_iff] at present
      obtain ⟨_, isTable, ⟨⟩⟩ := present
      rw [isSome, isTable]

/-! ## Parameters over settings -/

/-- The settings with parameters in their place: hosts when one is listed, names
    that are not empty, and a port and a flag that are set. -/
def taking (c : Config) (p : ConnectionParams) : Config :=
  { c with
    hosts := (p.hosts.filter fun hosts => !hosts.isEmpty).getD c.hosts
    keyspace := (ConnectionParams.nonEmpty p.keyspace).getD c.keyspace
    table := (ConnectionParams.nonEmpty p.table).or c.table
    port := (p.port.bind Double.toInt?).elim c.port Int.toNat
    verbose := p.verbose.getD c.verbose }

theorem taking_taking (c : Config) (p : ConnectionParams) : (c.taking p).taking p = c.taking p := by
  unfold taking
  cases p.hosts.filter fun hosts => !hosts.isEmpty <;> cases ConnectionParams.nonEmpty p.keyspace <;>
    cases ConnectionParams.nonEmpty p.table <;> cases p.port.bind Double.toInt? <;> cases p.verbose <;> rfl

/-- The parameters under their names. -/
def givenValues (p : ConnectionParams) : List (String × Option Json) :=
  [("hosts", (p.hosts.filter fun hosts => !hosts.isEmpty).map .ofTexts),
    ("keyspace", (ConnectionParams.nonEmpty p.keyspace).map .string),
    ("table", (ConnectionParams.nonEmpty p.table).map .string), ("port", p.port.map .number),
    ("verbose", p.verbose.map .boolean)]

theorem get_overrides (name : String) (p : ConnectionParams) (base : List (String × Json)) :
    Named.get? name (p.overrides.foldl (fun members entry => Named.put entry.1 entry.2 members) base) =
      (Named.get? name (givenValues p)).join.or (Named.get? name base) := by
  have entries : p.overrides = (givenValues p).flatMap entry := by
    unfold ConnectionParams.overrides givenValues
    rcases p.hosts with _ | _ | _ <;> cases ConnectionParams.nonEmpty p.keyspace <;>
      cases ConnectionParams.nonEmpty p.table <;> cases p.port <;> cases p.verbose <;> rfl
  have distinct : ((givenValues p).map (·.1)).Nodup := show ConnectionParams.names.Nodup by decide
  rw [entries, get_foldl_put name (distinct.sublist (names_entries _)), get_entries name distinct]

theorem port_taking {p : ConnectionParams} (inRange : p.InRange) (c : Config) {port : Double}
    (isPort : p.port = some port) : port = Double.ofNat (c.taking p).port ∧
      portRange.1 ≤ (c.taking p).port ∧ (c.taking p).port ≤ portRange.2 := by
  obtain ⟨n, low, high, rfl⟩ := inRange.port port isPort
  have exact : (Double.ofNat n).toInt? = some (n : Int) := isExact_of_le (le_trans high (by decide))
  simp [taking, isPort, exact, portRange, low, high]

theorem or_some {α : Type} (f : α → Json) (given : Option α) (otherwise : α) :
    (given.map f).or (some (f otherwise)) = some (f (given.getD otherwise)) := by
  cases given <;> rfl

theorem applyParams_eq {p : ConnectionParams} (inRange : p.InRange) (c : Config) :
    c.applyParams p = ofJson "connection parameters" (.object (c.taking p).members) := by
  have port : (p.port.map Json.number).or (some (.ofNat c.port)) = some (.ofNat (c.taking p).port) := by
    cases isPort : p.port with
    | none => simp [taking, isPort]
    | some port => simp [Json.ofNat, ← (port_taking inRange c isPort).1]
  apply ofJson_congr
  intro name isName
  rw [get_overrides, get_members, get_members]
  revert name
  simp only [names, List.forall_mem_cons]
  -- The settings that no parameter names are the same on both sides.
  exact ⟨or_some Json.ofTexts _ c.hosts, port, or_some Json.string _ c.keyspace, Option.map_or.symm,
    or_some Json.boolean _ c.verbose, rfl, rfl, rfl, rfl, rfl, rfl, rfl, rfl, rfl, rfl, by simp⟩

/-- A name that is not empty is a plain identifier. -/
def PlainIfGiven (name : Option String) : Prop := ∀ s, name = some s → s ≠ "" → IsPlainIdentifier s

theorem plainIfGiven_iff (name : Option String) :
    PlainIfGiven name ↔ ∀ s, ConnectionParams.nonEmpty name = some s → isIdentifier s = true := by
  simp [PlainIfGiven, isIdentifier_iff, ConnectionParams.nonEmpty, Option.filter_eq_some_iff]

theorem plain_of_taking {c : Config} {p : ConnectionParams} (keyspace : isIdentifier (c.taking p).keyspace = true)
    (tables : ∀ table, (c.taking p).table = some table → isIdentifier table = true) :
    PlainIfGiven p.keyspace ∧ PlainIfGiven p.table := by
  rw [plainIfGiven_iff, plainIfGiven_iff]
  constructor
  · intro name given
    simpa [taking, given] using keyspace
  · intro table given
    exact tables table (by simp [taking, given])

theorem valid_taking {c : Config} (valid : c.Valid) {p : ConnectionParams} (inRange : p.InRange)
    (keyspace : PlainIfGiven p.keyspace) (table : PlainIfGiven p.table) : (c.taking p).Valid := by
  rw [plainIfGiven_iff] at keyspace table
  refine { valid with hosts := ?hosts, port := ?port, keyspace := ?keyspace, table := ?table }
  case hosts =>
    cases listed : p.hosts.filter fun hosts => !hosts.isEmpty with
    | none => simpa [taking, listed] using valid.hosts
    | some hosts =>
      obtain ⟨isHosts, some⟩ := Option.filter_eq_some_iff.mp listed
      simp only [taking, listed, Option.getD_some]
      refine ⟨by simpa using some, fun host inside empty => ?_⟩
      exact (inRange.hosts hosts isHosts host inside).nonempty (by simp [empty])
  case port =>
    cases isPort : p.port with
    | none => simpa [taking, isPort] using valid.port
    | some port => exact (port_taking inRange c isPort).2
  case keyspace =>
    cases given : ConnectionParams.nonEmpty p.keyspace with
    | none => simpa [taking, given] using valid.keyspace
    | some name => simpa [taking, given] using keyspace name given
  case table =>
    intro name isTable
    cases given : ConnectionParams.nonEmpty p.table with
    | none => exact valid.table name (by simpa [taking, given] using isTable)
    | some other =>
      have same : other = name := by simpa [taking, given] using isTable
      exact same ▸ table other given

theorem applyParams_eq_ok_iff {c : Config} (valid : c.Valid) {p : ConnectionParams} (inRange : p.InRange)
    {result : Config} : c.applyParams p = .ok result ↔
      (PlainIfGiven p.keyspace ∧ PlainIfGiven p.table) ∧ result = c.taking p := by
  rw [applyParams_eq inRange]
  have accepted (plain : PlainIfGiven p.keyspace ∧ PlainIfGiven p.table) :
      ofJson "connection parameters" (.object (c.taking p).members) = .ok (c.taking p) :=
    ofJson_members (valid_taking valid inRange plain.1 plain.2) _
  constructor
  · intro applied
    obtain ⟨_, read⟩ := ofJson_eq_ok.mp applied
    obtain ⟨keyspace, table⟩ := read.names_eq
    have plain := plain_of_taking (keyspace ▸ read.valid.keyspace) (table ▸ read.valid.table)
    rw [accepted plain] at applied
    cases applied
    exact ⟨plain, rfl⟩
  · rintro ⟨plain, rfl⟩
    exact accepted plain

/-- Parameters over settings that were read make settings exactly when their
    names are empty or plain identifiers. The settings then have the parameters
    that are given, and everything else is as it was. The parameters change
    nothing a second time, and the settings are read back as they are. -/
theorem parameters_applied {source text : String} {j : Json} {c : Config} {p : ConnectionParams}
    (made : Config.ofJson source j = .ok c) (parsed : ConnectionParams.parse text = .ok p) :
    ((∃ result, c.applyParams p = .ok result) ↔ PlainIfGiven p.keyspace ∧ PlainIfGiven p.table) ∧
      ∀ result, c.applyParams p = .ok result →
        result = c.taking p ∧ (∀ port, p.port = some port → port = Double.ofNat result.port) ∧
          result.applyParams p = .ok result ∧
          ∀ source, Config.ofJson source (.object result.members) = .ok result := by
  have valid := (ofJson_eq_ok.mp made).2.valid
  have inRange := ConnectionParams.inRange_of_parse parsed
  constructor
  · constructor
    · rintro ⟨result, applied⟩
      exact ((applyParams_eq_ok_iff valid inRange).mp applied).1
    · intro plain
      exact ⟨_, (applyParams_eq_ok_iff valid inRange).mpr ⟨plain, rfl⟩⟩
  · intro result applied
    obtain ⟨plain, rfl⟩ := (applyParams_eq_ok_iff valid inRange).mp applied
    have takingValid := valid_taking valid inRange plain.1 plain.2
    have again := (applyParams_eq_ok_iff takingValid inRange).mpr ⟨plain, rfl⟩
    rw [taking_taking] at again
    exact ⟨rfl, fun port isPort => (port_taking inRange c isPort).1, again, ofJson_members takingValid⟩

/-- An empty keyspace leaves the one that there is, and a table that is no plain
    identifier is refused. -/
theorem table_and_port_applied :
    let document : Json := .object [("keyspace", .string "bridge"), ("username", .string "reader")]
    let c : Config :=
      { hosts := ["127.0.0.1"], port := 9042, keyspace := "bridge", table := none, verbose := false,
        allowFiltering := true, replicationFactor := 1, localDataCenter := "datacenter1", username := some "reader",
        password := none, connectTimeoutMs := 10000, requestTimeoutMs := 10000, timestampZone := .local,
        strictDecoding := false, rejectUnsupportedTypes := false }
    let p : ConnectionParams := { keyspace := some "", table := some "orders", port := some (Double.ofNat 9043) }
    Config.ofJson "configuration" document = .ok c ∧
      ConnectionParams.parse "keyspace=;table=orders;port=9043" = .ok p ∧
      c.applyParams p = .ok { c with table := some "orders", port := 9043 } ∧
      ∀ result, c.applyParams { table := some "my-orders" } ≠ .ok result := by
  intro document c p
  have made : Config.ofJson "configuration" document = .ok c := by rfl
  have parsed : ConnectionParams.parse "keyspace=;table=orders;port=9043" = .ok p := by rfl
  have refusedParsed : ConnectionParams.parse "table=my-orders" = .ok { table := some "my-orders" } := by rfl
  have keyspace : PlainIfGiven p.keyspace := by
    rintro _ ⟨⟩ some
    exact absurd rfl some
  have table : PlainIfGiven p.table := by
    rintro _ ⟨⟩ _
    exact isIdentifier_iff.mp (by decide)
  refine ⟨made, parsed, ?_, fun result applied => ?_⟩
  · obtain ⟨result, applied⟩ := (parameters_applied made parsed).1.mpr ⟨keyspace, table⟩
    have exact : (Double.ofNat 9043).toInt? = some ((9043 : Nat) : Int) := isExact_of_le (by decide)
    have taken : c.taking p = { c with table := some "orders", port := 9043 } := by
      have empty : ConnectionParams.nonEmpty (some "") = none := by decide
      have given : ConnectionParams.nonEmpty (some "orders") = some "orders" := by decide
      simp [taking, p, c, exact, empty, given]
    rw [applied, ((parameters_applied made parsed).2 result applied).1, taken]
  · obtain ⟨_, plain⟩ := (parameters_applied made refusedParsed).1.mp ⟨result, applied⟩
    have identifier := isIdentifier_iff.mpr (plain "my-orders" rfl (by decide))
    exact absurd identifier (by decide)

end Config

end CqlTable
