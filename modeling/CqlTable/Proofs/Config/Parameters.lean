import CqlTable.Config.Parameters
import CqlTable.Proofs.Text.Trimming
import Mathlib.Data.List.Forall2

/-!
# Connection parameters: the last value of each key

The tokens of a text give values to keys, and nothing else of the text counts
(`parse_congr`). The last value of a key holds, and the first port that is none
is the error (`parse_eq`). So the text of two texts sets what the second sets, and
otherwise what the first sets (`parameters_compose`).
-/

namespace CqlTable

open Text

/-! ## Tokens of a text -/

theorem splitChars_ne_nil (mark : Char) (cs : List Char) : splitChars mark cs ≠ [] := by
  cases cs with
  | nil => exact List.cons_ne_nil _ _
  | cons c rest =>
    unfold splitChars
    split
    · exact List.cons_ne_nil _ _
    · split <;> exact List.cons_ne_nil _ _

theorem splitChars_append (mark : Char) (a b : List Char) :
    splitChars mark (a ++ mark :: b) = splitChars mark a ++ splitChars mark b := by
  induction a with
  | nil => simp [splitChars]
  | cons c rest ih =>
    by_cases isMark : c = mark
    · simp [splitChars, isMark, ih]
    · cases pieces : splitChars mark rest with
      | nil => exact absurd pieces (splitChars_ne_nil mark rest)
      | cons piece others => simp [splitChars, isMark, ih, pieces]

theorem splitChars_of_not_mem {mark : Char} {cs : List Char} (none : mark ∉ cs) : splitChars mark cs = [cs] := by
  induction cs with
  | nil => rfl
  | cons c rest ih =>
    rw [List.mem_cons, not_or] at none
    simp [splitChars, Ne.symm none.1, ih none.2]

theorem splitChars_append_left {mark : Char} {before : List Char} (none : mark ∉ before) {cs piece : List Char}
    {pieces : List (List Char)} (split : splitChars mark cs = piece :: pieces) :
    splitChars mark (before ++ cs) = (before ++ piece) :: pieces := by
  induction before with
  | nil => exact split
  | cons c rest ih =>
    rw [List.mem_cons, not_or] at none
    rw [List.cons_append, splitChars, if_neg (Ne.symm none.1), ih none.2]
    rfl

theorem splitChars_append_right {mark : Char} {after : List Char} (none : mark ∉ after) (cs : List Char) :
    ∃ front last, splitChars mark cs = front ++ [last] ∧ splitChars mark (cs ++ after) = front ++ [last ++ after] := by
  induction cs with
  | nil => exact ⟨[], [], rfl, splitChars_of_not_mem none⟩
  | cons c rest ih =>
    obtain ⟨front, last, split, whole⟩ := ih
    by_cases isMark : c = mark
    · exact ⟨[] :: front, last, by simp [splitChars, isMark, split], by simp [splitChars, isMark, whole]⟩
    · cases front with
      | nil => exact ⟨[], c :: last, by simp [splitChars, isMark, split], by simp [splitChars, isMark, whole]⟩
      | cons piece pieces =>
        exact ⟨(c :: piece) :: pieces, last, by simp [splitChars, isMark, split], by simp [splitChars, isMark, whole]⟩

/-- Blanks around a text make no difference to its pieces but for blanks around
    these. -/
theorem map_trimChars_splitChars {mark : Char} (visible : isBlank mark = false) {before cs after : List Char}
    (blankBefore : ∀ c ∈ before, isBlank c = true) (blankAfter : ∀ c ∈ after, isBlank c = true) :
    (splitChars mark (before ++ cs ++ after)).map trimChars = (splitChars mark cs).map trimChars := by
  have noneBefore : mark ∉ before := fun inside => by simp [blankBefore mark inside] at visible
  have noneAfter : mark ∉ after := fun inside => by simp [blankAfter mark inside] at visible
  obtain ⟨front, last, split, whole⟩ := splitChars_append_right noneAfter (before ++ cs)
  have nothing : ∀ c ∈ ([] : List Char), isBlank c = true := by simp
  have lastSame : trimChars (last ++ after) = trimChars last := trimChars_padded nothing blankAfter
  rw [whole, List.map_append, List.map_singleton, lastSame, ← List.map_singleton, ← List.map_append, ← split]
  cases pieces : splitChars mark cs with
  | nil => exact absurd pieces (splitChars_ne_nil mark cs)
  | cons piece rest =>
    have firstSame : trimChars (before ++ piece) = trimChars piece := by
      simpa using trimChars_padded blankBefore nothing
    rw [splitChars_append_left noneBefore pieces, List.map_cons, List.map_cons, firstSame]

/-- A list is split into what it was joined of. -/
theorem splitChars_join {mark : Char} {texts : List String} (some : texts ≠ [])
    (none : ∀ text ∈ texts, mark ∉ text.toList) :
    splitChars mark (join (String.singleton mark) texts).toList = texts.map String.toList := by
  induction texts with
  | nil => exact absurd rfl some
  | cons text rest ih =>
    obtain ⟨first, others⟩ := List.forall_mem_cons.mp none
    cases rest with
    | nil => exact splitChars_of_not_mem first
    | cons next rest =>
      have whole : (join (String.singleton mark) (text :: next :: rest)).toList =
          text.toList ++ mark :: (join (String.singleton mark) (next :: rest)).toList := by
        simp [join]
      rw [whole, splitChars_append, splitChars_of_not_mem first, ih (by simp) others]
      rfl

/-- A token is split at its first equals sign. -/
theorem keyValue_append {key : List Char} (value : List Char) (none : '=' ∉ key) :
    keyValue? (key ++ '=' :: value) = some (String.ofList (trimChars key), String.ofList (trimChars value)) := by
  have passed : ∀ c ∈ key, decide (c ≠ '=') = true := fun c inside =>
    decide_eq_true fun same => none (same ▸ inside)
  rw [keyValue?, List.dropWhile_append_of_pos passed, List.takeWhile_append_of_pos passed]
  simp

theorem keyValue_of_not_mem {token : List Char} (none : '=' ∉ token) : keyValue? token = .none := by
  have passed : token.dropWhile (· ≠ '=') = [] := List.dropWhile_eq_nil_iff.mpr fun c inside =>
    decide_eq_true fun same => none (same ▸ inside)
  rw [keyValue?, passed]

namespace ConnectionParams

/-! ## Values of keys -/

/-- The names of the parameters. -/
def names : List String := ["hosts", "keyspace", "table", "port", "verbose"]

/-- The values that tokens give to a key, in order. -/
def tokenValues (key : String) (tokens : List (List Char)) : List String :=
  tokens.filterMap fun token =>
    (keyValue? token).bind fun entry => if entry.1 = key then some entry.2 else none

/-- The values that a text gives to a key, in order. -/
def values (key text : String) : List String := tokenValues key (splitChars ';' text.toList)

variable {key : String} {token : List Char} {tokens : List (List Char)}

theorem tokenValues_cons_of_none (none : keyValue? token = .none) (key : String) (tokens : List (List Char)) :
    tokenValues key (token :: tokens) = tokenValues key tokens := by
  simp [tokenValues, none]

theorem tokenValues_cons {given value : String} (pair : keyValue? token = some (given, value)) (key : String)
    (tokens : List (List Char)) : tokenValues key (token :: tokens) =
      if given = key then value :: tokenValues key tokens else tokenValues key tokens := by
  by_cases same : given = key
  · simp [tokenValues, pair, same]
  · simp [tokenValues, pair, same]

theorem values_append (key a b : String) : values key (a ++ ";" ++ b) = values key a ++ values key b := by
  have chars : (a ++ ";" ++ b).toList = a.toList ++ ';' :: b.toList := by simp
  rw [values, chars, splitChars_append, tokenValues, List.filterMap_append]
  rfl

/-- Texts between semicolons give the values that each of them gives. -/
theorem values_join (key : String) (texts : List String) :
    values key (join ";" texts) = texts.flatMap (values key) := by
  induction texts with
  | nil => rfl
  | cons text rest ih =>
    cases rest with
    | nil => simp [join]
    | cons next rest =>
      have whole : join ";" (text :: next :: rest) = text ++ ";" ++ join ";" (next :: rest) := rfl
      rw [whole, values_append, ih]
      rfl

/-- The values of a text that is one token. -/
theorem values_of_pair {before after : String} (noSemicolon : ';' ∉ before.toList ∧ ';' ∉ after.toList)
    (noEquals : '=' ∉ before.toList) (key : String) :
    values key (before ++ "=" ++ after) = if trim before = key then [trim after] else [] := by
  have chars : (before ++ "=" ++ after).toList = before.toList ++ '=' :: after.toList := by simp
  have single : ';' ∉ before.toList ++ '=' :: after.toList := by simp [noSemicolon]
  rw [values, chars, splitChars_of_not_mem single, tokenValues_cons (keyValue_append _ noEquals)]
  rfl

/-! ## What values set -/

/-- Whether a text switches a flag on. -/
def isTruthy (value : String) : Bool := truthyWords.contains (lower value)

/-- The last of several ports; the first text that is no port is the error. -/
def lastPort : List String → Except ConfigurationError (Option Double)
  | [] => .ok none
  | value :: rest =>
    match parsePort value with
    | .error e => .error e
    | .ok port => (lastPort rest).map fun last => last.or (some (Double.ofNat port))

theorem lastPort_append (first second : List String) : lastPort (first ++ second) =
    match lastPort first, lastPort second with
    | .error e, _ => .error e
    | .ok _, .error e => .error e
    | .ok a, .ok b => .ok (b.or a) := by
  induction first with
  | nil => cases h : lastPort second <;> simp [lastPort, h]
  | cons value rest ih =>
    rw [List.cons_append, lastPort, lastPort, ih]
    cases parsePort value with
    | error e => rfl
    | ok port =>
      cases lastPort rest with
      | error e => rfl
      | ok a =>
        cases lastPort second with
        | error e => rfl
        | ok b => exact congrArg Except.ok (Option.or_assoc)

theorem getLast?_cons_or {α : Type} (f : String → α) (value : String) (rest : List String) (otherwise : Option α) :
    ((value :: rest).getLast?.map f).or otherwise = (rest.getLast?.map f).or (some (f value)) := by
  cases last : rest.getLast? with
  | none => simp [List.getLast?_cons, last]
  | some other => simp [List.getLast?_cons, last]

/-- The parameters that the values of keys set over others. -/
def ofValues (params : ConnectionParams) (values : String → List String) (port : Option Double) :
    ConnectionParams where
  hosts := ((values "hosts").getLast?.map commaEntries).or params.hosts
  keyspace := (values "keyspace").getLast?.or params.keyspace
  table := (values "table").getLast?.or params.table
  port := port.or params.port
  verbose := ((values "verbose").getLast?.map isTruthy).or params.verbose

/-- A value that is set first counts like one set before. -/
theorem ofValues_set {params next : ConnectionParams} {given value : String}
    (pair : keyValue? token = some (given, value)) (noPort : given ≠ "port") (isSet : params.set given value = .ok next)
    (tokens : List (List Char)) (port : Option Double) :
    next.ofValues (tokenValues · tokens) port = params.ofValues (tokenValues · (token :: tokens)) port := by
  unfold set at isSet
  simp only [ofValues, tokenValues_cons pair]
  split_ifs at isSet with hosts keyspace table verbose
  · cases isSet
    simp [hosts, getLast?_cons_or]
  · cases isSet
    cases last : (tokenValues "keyspace" tokens).getLast? <;> simp [keyspace, List.getLast?_cons, last]
  · cases isSet
    cases last : (tokenValues "table" tokens).getLast? <;> simp [table, List.getLast?_cons, last]
  · cases isSet
    simp [verbose, getLast?_cons_or, isTruthy]
  · cases isSet
    simp [hosts, keyspace, table, verbose]

theorem set_port (params : ConnectionParams) (value : String) : params.set "port" value =
    (parsePort value).map fun port => { params with port := some (Double.ofNat port) } := by
  cases read : parsePort value <;> simp [set, read, Except.map]

theorem exists_set {given : String} (noPort : given ≠ "port") (params : ConnectionParams) (value : String) :
    ∃ next, params.set given value = .ok next := by
  unfold set
  split_ifs <;> exact ⟨_, rfl⟩

theorem setTokens_eq (params : ConnectionParams) (tokens : List (List Char)) : params.setTokens tokens =
    (lastPort (tokenValues "port" tokens)).map (params.ofValues (tokenValues · tokens)) := by
  induction tokens generalizing params with
  | nil => rfl
  | cons token rest ih =>
    rw [setTokens, setToken]
    cases pair : keyValue? token with
    | none => simp only [tokenValues_cons_of_none pair, ih]
    | some entry =>
      obtain ⟨given, value⟩ := entry
      -- Only a port can be the error.
      by_cases isPort : given = "port"
      · subst isPort
        rw [tokenValues_cons pair, if_pos rfl, lastPort]
        simp only [set_port]
        cases parsePort value with
        | error e => rfl
        | ok port =>
          simp only [Except.map, ih]
          cases lastPort (tokenValues "port" rest) with
          | error e => rfl
          | ok last => simp [ofValues, tokenValues_cons pair]
      · obtain ⟨next, isSet⟩ := exists_set isPort params value
        have others : ∀ port, next.ofValues (tokenValues · rest) port = _ := ofValues_set pair isPort isSet rest
        simp only [isSet, ih]
        rw [tokenValues_cons pair, if_neg isPort, funext others]

/-- A text sets the last value of each key, unless one of its ports is none. -/
theorem parse_eq (text : String) :
    parse text = (lastPort (values "port" text)).map (({} : ConnectionParams).ofValues (values · text)) :=
  setTokens_eq {} _

/-! ## Texts that set the same -/

/-- The texts give the same values to each parameter; two lists of hosts are the
    same when their entries are. -/
structure SaySame (text other : String) : Prop where
  hosts : (values "hosts" text).map commaEntries = (values "hosts" other).map commaEntries
  others : ∀ key ∈ names, key ≠ "hosts" → values key text = values key other

theorem parse_congr {text other : String} (same : SaySame text other) : parse text = parse other := by
  obtain ⟨hosts, others⟩ := same
  have hosts := congrArg List.getLast? hosts
  rw [List.getLast?_map, List.getLast?_map] at hosts
  have keyspace := others "keyspace" (by decide) (by decide)
  have table := others "table" (by decide) (by decide)
  have port := others "port" (by decide) (by decide)
  have verbose := others "verbose" (by decide) (by decide)
  rw [parse_eq, parse_eq, port]
  congr 1
  funext last
  simp only [ofValues, hosts, keyspace, table, verbose]

/-! ## Tokens put in, respaced and moved -/

/-- The text has blanks around it, or none. -/
def Padded (padded bare : String) : Prop :=
  ∃ before after : List Char, padded.toList = before ++ bare.toList ++ after ∧
    (∀ c ∈ before, isBlank c = true) ∧ ∀ c ∈ after, isBlank c = true

/-- The token has the key before its first equals sign, but for blanks around
    it. -/
def HasKey (token key : String) : Prop :=
  ∃ before after : String, token = before ++ "=" ++ after ∧ '=' ∉ before.toList ∧ trim before = key

/-- Texts set the same with the token between others and without it. -/
def IsInert (token : String) : Prop :=
  ∀ before after, parse (join ";" (before ++ token :: after)) = parse (join ";" (before ++ after))

/-- Texts set the same with either token between others. -/
def Interchangeable (token other : String) : Prop :=
  ∀ before after, parse (join ";" (before ++ token :: after)) = parse (join ";" (before ++ other :: after))

variable {token other key padded bare : String}

theorem Padded.trim_eq (isPadded : Padded padded bare) : trim padded = trim bare := by
  obtain ⟨before, after, chars, blankBefore, blankAfter⟩ := isPadded
  rw [trim, trim, chars, trimChars_padded blankBefore blankAfter]

theorem Padded.not_mem (isPadded : Padded padded bare) {mark : Char} (visible : isBlank mark = false)
    (none : mark ∉ bare.toList) : mark ∉ padded.toList := by
  obtain ⟨before, after, chars, blankBefore, blankAfter⟩ := isPadded
  rw [chars, List.mem_append, List.mem_append]
  rintro ((inside | inside) | inside)
  · simp [blankBefore mark inside] at visible
  · exact none inside
  · simp [blankAfter mark inside] at visible

theorem SaySame.interchangeable (same : SaySame token other) : Interchangeable token other := by
  intro before after
  apply parse_congr
  constructor
  · simp [values_join, same.hosts]
  · intro key isName noHosts
    simp [values_join, same.others key isName noHosts]

theorem isInert_of_values (none : ∀ key ∈ names, values key token = []) : IsInert token := by
  intro before after
  apply parse_congr
  constructor
  · simp [values_join, none "hosts" (by decide)]
  · intro key isName _
    simp [values_join, none key isName]

theorem values_of_no_equals (single : ';' ∉ token.toList) (none : '=' ∉ token.toList) (key : String) :
    values key token = [] := by
  rw [values, splitChars_of_not_mem single, tokenValues_cons_of_none (keyValue_of_not_mem none)]
  rfl

theorem HasKey.values (hasKey : HasKey token key) (single : ';' ∉ token.toList) :
    ∃ value, ∀ name, values name token = if key = name then [value] else [] := by
  obtain ⟨before, after, rfl, noEquals, rfl⟩ := hasKey
  have parts : ';' ∉ before.toList ∧ ';' ∉ after.toList := by
    simp only [String.toList_append, List.mem_append, not_or] at single
    exact ⟨single.1.1, single.2⟩
  exact ⟨trim after, values_of_pair parts noEquals⟩

/-- Tokens of different keys may change places. -/
theorem parse_swap {otherKey : String} (hasKey : HasKey token key) (otherHasKey : HasKey other otherKey)
    (single : ';' ∉ token.toList) (otherSingle : ';' ∉ other.toList) (different : key ≠ otherKey)
    (before after : List String) :
    parse (join ";" (before ++ token :: other :: after)) = parse (join ";" (before ++ other :: token :: after)) := by
  obtain ⟨value, values⟩ := hasKey.values single
  obtain ⟨otherValue, otherValues⟩ := otherHasKey.values otherSingle
  have swap (name : String) : ConnectionParams.values name token ++ ConnectionParams.values name other =
      ConnectionParams.values name other ++ ConnectionParams.values name token := by
    rw [values, otherValues]
    by_cases isKey : key = name
    · have isOther : otherKey ≠ name := fun same => different (isKey.trans same.symm)
      simp [isKey, isOther]
    · simp [isKey]
  have same (name : String) : ConnectionParams.values name (join ";" (before ++ token :: other :: after)) =
      ConnectionParams.values name (join ";" (before ++ other :: token :: after)) := by
    simp only [values_join, List.flatMap_append, List.flatMap_cons]
    rw [← List.append_assoc (ConnectionParams.values name token), swap, List.append_assoc]
  exact parse_congr ⟨congrArg _ (same "hosts"), fun name _ _ => same name⟩

/-- Blanks around a key and its value do not count. -/
theorem saySame_of_padded {paddedKey paddedValue value : String} (isKey : Padded paddedKey key)
    (isValue : Padded paddedValue value) (noEquals : '=' ∉ key.toList)
    (single : ';' ∉ key.toList ∧ ';' ∉ value.toList) :
    SaySame (paddedKey ++ "=" ++ paddedValue) (key ++ "=" ++ value) := by
  have same (name : String) : values name (paddedKey ++ "=" ++ paddedValue) = values name (key ++ "=" ++ value) := by
    rw [values_of_pair ⟨isKey.not_mem (by decide) single.1, isValue.not_mem (by decide) single.2⟩
      (isKey.not_mem (by decide) noEquals), values_of_pair single noEquals, isKey.trim_eq, isValue.trim_eq]
  exact ⟨congrArg _ (same "hosts"), fun name _ _ => same name⟩

theorem commaEntries_congr {text : String}
    (same : (splitChars ',' text.toList).map trimChars = (splitChars ',' other.toList).map trimChars) :
    commaEntries text = commaEntries other := by
  have trims (s : String) : (split ',' s).map trim = ((splitChars ',' s.toList).map trimChars).map String.ofList := by
    simp [split, trim, Function.comp_def]
  rw [commaEntries, commaEntries, trims, trims, same]

theorem commaEntries_trim (text : String) : commaEntries (trim text) = commaEntries text := by
  obtain ⟨before, after, split, blankBefore, blankAfter⟩ := trimChars_split text.toList
  apply commaEntries_congr
  rw [trim, String.toList_ofList]
  conv_rhs => rw [split]
  exact (map_trimChars_splitChars (by decide) blankBefore blankAfter).symm

theorem not_mem_join {mark : Char} {texts : List String} (none : ∀ text ∈ texts, mark ∉ text.toList)
    (other : mark ≠ ',') : mark ∉ (join "," texts).toList := by
  induction texts with
  | nil => simp [join]
  | cons text rest ih =>
    obtain ⟨first, others⟩ := List.forall_mem_cons.mp none
    cases rest with
    | nil => exact first
    | cons next rest =>
      have whole : (join "," (text :: next :: rest)).toList =
          text.toList ++ ',' :: (join "," (next :: rest)).toList := by simp [join]
      rw [whole]
      simp [first, other, ih others]

theorem not_mem_padded {mark : Char} (visible : isBlank mark = false) {texts padded : List String}
    (isPadded : List.Forall₂ Padded padded texts) (none : ∀ text ∈ texts, mark ∉ text.toList) :
    ∀ text ∈ padded, mark ∉ text.toList := by
  induction isPadded with
  | nil => simp
  | cons first _ ih =>
    rw [List.forall_mem_cons] at none ⊢
    exact ⟨first.not_mem visible none.1, ih none.2⟩

theorem commaEntries_padded {hosts paddedHosts : List String} (padded : List.Forall₂ Padded paddedHosts hosts)
    (single : ∀ host ∈ hosts, ',' ∉ host.toList) : commaEntries (join "," paddedHosts) = commaEntries (join "," hosts) := by
  have paddedSingle := not_mem_padded (by decide) padded single
  cases padded with
  | nil => rfl
  | cons first rest =>
    apply commaEntries_congr
    have same := (List.Forall₂.cons first rest).imp fun _ _ isPadded => String.ofList_injective isPadded.trim_eq
    rw [show "," = String.singleton ',' from rfl, splitChars_join (by simp) paddedSingle,
      splitChars_join (by simp) single, List.map_map, List.map_map]
    exact List.forall₂_eq_eq_eq ▸ List.forall₂_map_left_iff.mpr (List.forall₂_map_right_iff.mpr same)

/-- Blanks around hosts do not count. -/
theorem saySame_of_hosts {hosts paddedHosts : List String} (padded : List.Forall₂ Padded paddedHosts hosts)
    (noComma : ∀ host ∈ hosts, ',' ∉ host.toList) (noSemicolon : ∀ host ∈ hosts, ';' ∉ host.toList) :
    SaySame ("hosts" ++ "=" ++ join "," paddedHosts) ("hosts" ++ "=" ++ join "," hosts) := by
  have given {texts : List String} (none : ∀ text ∈ texts, ';' ∉ text.toList) (name : String) :
      values name ("hosts" ++ "=" ++ join "," texts) = if "hosts" = name then [trim (join "," texts)] else [] :=
    values_of_pair ⟨by decide, not_mem_join none (by decide)⟩ (by decide) name
  have paddedGiven := given (not_mem_padded (by decide) padded noSemicolon)
  constructor
  · rw [given noSemicolon, paddedGiven]
    simp [commaEntries_trim, commaEntries_padded padded noComma]
  · intro key _ noHosts
    rw [given noSemicolon, paddedGiven, if_neg noHosts.symm, if_neg noHosts.symm]

/-! ## What is set -/

theorem parsePort_range {text : String} {port : Nat} (read : parsePort text = .ok port) : 1 ≤ port ∧ port ≤ 65535 := by
  unfold parsePort at read
  split at read
  · simp only [] at read
    split at read
    · next within =>
      cases read
      exact within
    · cases read
  · cases read

theorem lastPort_range {texts : List String} {last : Option Double} (read : lastPort texts = .ok last) :
    ∀ port ∈ last, ∃ n : Nat, 1 ≤ n ∧ n ≤ 65535 ∧ port = Double.ofNat n := by
  induction texts generalizing last with
  | nil =>
    cases read
    simp
  | cons text rest ih =>
    rw [lastPort] at read
    cases first : parsePort text with
    | error e => simp [first] at read
    | ok n =>
      cases later : lastPort rest with
      | error e => simp [first, later, Except.map] at read
      | ok other =>
        simp only [first, later, Except.map, Except.ok.injEq] at read
        subst read
        cases other with
        | none =>
          rintro _ ⟨⟩
          obtain ⟨low, high⟩ := parsePort_range first
          exact ⟨n, low, high, rfl⟩
        | some _ => exact ih later

theorem bareEnds_of_mem_commaEntries {text host : String} (inside : host ∈ commaEntries text) :
    BareEnds host.toList := by
  obtain ⟨isEntry, nonempty⟩ := List.mem_filter.mp inside
  obtain ⟨piece, _, rfl⟩ := List.mem_map.mp isEntry
  rw [trim, String.toList_ofList]
  refine bareEnds_trimChars fun empty => ?_
  simp [trim, empty] at nonempty

/-- Ports have the range of ports, and hosts are not empty and have no blanks at
    their ends. -/
structure InRange (params : ConnectionParams) : Prop where
  port : ∀ port, params.port = some port → ∃ n : Nat, 1 ≤ n ∧ n ≤ 65535 ∧ port = Double.ofNat n
  hosts : ∀ hosts, params.hosts = some hosts → ∀ host ∈ hosts, BareEnds host.toList

theorem inRange_of_parse {text : String} {params : ConnectionParams} (parsed : parse text = .ok params) :
    params.InRange := by
  rw [parse_eq] at parsed
  cases last : lastPort (values "port" text) with
  | error e => simp [last, Except.map] at parsed
  | ok port =>
    simp only [last, Except.map, Except.ok.injEq] at parsed
    subst parsed
    constructor
    · intro found isPort
      exact lastPort_range last found (by simpa [ofValues] using isPort)
    · intro hosts isHosts host inside
      obtain ⟨value, _, rfl⟩ : ∃ value, (values "hosts" text).getLast? = some value ∧ commaEntries value = hosts := by
        simpa [ofValues] using isHosts
      exact bareEnds_of_mem_commaEntries inside

/-- The later parameters, and the earlier ones where the later are not set. -/
def overriding (later earlier : ConnectionParams) : ConnectionParams where
  hosts := later.hosts.or earlier.hosts
  keyspace := later.keyspace.or earlier.keyspace
  table := later.table.or earlier.table
  port := later.port.or earlier.port
  verbose := later.verbose.or earlier.verbose

theorem ofValues_append (first second : String → List String) (port last : Option Double) :
    ({} : ConnectionParams).ofValues (fun key => first key ++ second key) (last.or port) =
      (({} : ConnectionParams).ofValues second last).overriding (({} : ConnectionParams).ofValues first port) := by
  simp [ofValues, overriding, List.getLast?_append, Option.map_or]

theorem parse_append (a b : String) : parse (a ++ ";" ++ b) =
    match parse a, parse b with
    | .error e, _ => .error e
    | .ok _, .error e => .error e
    | .ok first, .ok second => .ok (second.overriding first) := by
  simp only [parse_eq, values_append, lastPort_append]
  cases lastPort (values "port" a) with
  | error e => rfl
  | ok port =>
    cases lastPort (values "port" b) with
    | error e => rfl
    | ok last => exact congrArg Except.ok (ofValues_append (values · a) (values · b) port last)

/-- The parameters of two texts with a semicolon between them are those of the
    second over those of the first; the first error is the error. So tokens
    without an equals sign or with another key, empty ones among them, and blanks
    around keys, values and hosts can be put in anywhere, and tokens of different
    keys can change places. What is set is in range. -/
theorem parameters_compose :
    (∀ a b, parse (a ++ ";" ++ b) =
      match parse a, parse b with
      | .error e, _ => .error e
      | .ok _, .error e => .error e
      | .ok first, .ok second => .ok (second.overriding first)) ∧
    (∀ token : String, ';' ∉ token.toList → ('=' ∉ token.toList ∨ ∃ key ∉ names, HasKey token key) → IsInert token) ∧
    (∀ key value paddedKey paddedValue : String, '=' ∉ key.toList → ';' ∉ key.toList ∧ ';' ∉ value.toList →
      Padded paddedKey key → Padded paddedValue value →
      Interchangeable (paddedKey ++ "=" ++ paddedValue) (key ++ "=" ++ value)) ∧
    (∀ hosts paddedHosts, (∀ host ∈ hosts, ',' ∉ host.toList) → (∀ host ∈ hosts, ';' ∉ host.toList) →
      List.Forall₂ Padded paddedHosts hosts →
      Interchangeable ("hosts" ++ "=" ++ join "," paddedHosts) ("hosts" ++ "=" ++ join "," hosts)) ∧
    (∀ token other key otherKey, HasKey token key → HasKey other otherKey → key ≠ otherKey →
      ';' ∉ token.toList → ';' ∉ other.toList → ∀ before after,
      parse (join ";" (before ++ token :: other :: after)) = parse (join ";" (before ++ other :: token :: after))) ∧
    ∀ text params, parse text = .ok params → params.InRange := by
  refine ⟨parse_append, fun token single inert => isInert_of_values fun name isName => ?_,
    fun key value paddedKey paddedValue noEquals single isKey isValue =>
      (saySame_of_padded isKey isValue noEquals single).interchangeable,
    fun hosts paddedHosts noComma noSemicolon padded => (saySame_of_hosts padded noComma noSemicolon).interchangeable,
    fun token other key otherKey hasKey otherHasKey different single otherSingle =>
      parse_swap hasKey otherHasKey single otherSingle different,
    fun text params => inRange_of_parse⟩
  rcases inert with noEquals | ⟨key, unknown, hasKey⟩
  · exact values_of_no_equals single noEquals name
  · obtain ⟨value, given⟩ := hasKey.values single
    have other : key ≠ name := fun same => unknown (by rwa [same])
    rw [given, if_neg other]

/-- A keyspace with an equals sign in it is replaced, a flag stays, hosts come
    with blanks; an unknown key is put in; of two bad ports the first is the
    error. -/
theorem later_values_hold :
    let first : ConnectionParams :=
      { keyspace := some "a=b", port := some (Double.ofNat 9042), verbose := some true }
    let second : ConnectionParams := { hosts := some ["db1", "db2"], keyspace := some "shop" }
    parse "port=9042;keyspace=a=b;verbose=YES" = .ok first ∧ parse "keyspace=shop; hosts = db1 ,, db2" = .ok second ∧
      parse ("port=9042;keyspace=a=b;verbose=YES" ++ ";" ++ "keyspace=shop; hosts = db1 ,, db2") =
        .ok { hosts := some ["db1", "db2"], keyspace := some "shop", port := some (Double.ofNat 9042),
              verbose := some true } ∧
      second.InRange ∧
      parse "port=1;colour=blue;port=2" = parse "port=1;port=2" ∧
      parse ("port=0" ++ ";" ++ "port=65536") = .error (.invalidPort "0") := by
  intro first second
  obtain ⟨compose, inert, _, _, _, inRange⟩ := parameters_compose
  have firstParsed : parse "port=9042;keyspace=a=b;verbose=YES" = .ok first := by rfl
  have secondParsed : parse "keyspace=shop; hosts = db1 ,, db2" = .ok second := by rfl
  have unknown : IsInert "colour=blue" :=
    inert _ (by decide) (.inr ⟨"colour", by decide, "colour", "blue", by decide, by decide, by decide⟩)
  refine ⟨firstParsed, secondParsed, ?_, inRange _ _ secondParsed, unknown ["port=1"] ["port=2"], ?_⟩
  · rw [compose, firstParsed, secondParsed]
    rfl
  · rw [compose]
    rfl

end ConnectionParams

end CqlTable
