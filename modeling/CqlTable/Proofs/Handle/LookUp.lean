import CqlTable.Proofs.Handle.Sending
import CqlTable.Proofs.Statement.KeyParts
import CqlTable.Proofs.Statement.Structure
import CqlTable.Proofs.Text.Trimming

/-!
# Looking rows up by leading key parts

The condition of a look-up neither begins nor ends with a blank, and is empty
only where no part counts, so the query holds it as it was built (`text_select`).
A look-up sends that query and nothing else but what restores the keyspace of a
new client (`LookUpSends`).
-/

namespace CqlTable

open Text

/-! ## Conditions -/

variable {cs : List Char}

theorem bareEnds_of_isWord (word : IsWord cs) : BareEnds cs := by
  obtain ⟨nonempty, inside⟩ := word
  refine ⟨nonempty, fun c isFirst => ?_, fun c isLast => ?_⟩
  · exact not_isBlank_of_isTokenChar (inside c (List.mem_of_mem_head? isFirst))
  · exact not_isBlank_of_isTokenChar (inside c (List.mem_of_mem_getLast? isLast))

theorem bareEnds_literal {literal : Literal} (plain : literal.IsPlain) : BareEnds literal.text.toList := by
  cases literal with
  | null => exact bareEnds_of_isWord (by decide)
  | bare text => exact bareEnds_of_isWord plain
  | quoted text =>
    have chars : (Literal.quoted text).text.toList = ['\''] ++ (escape text).toList ++ ['\''] := by
      simp [Literal.text]
    have visible : ∀ c ∈ some '\'', isBlank c = false := by simp [isBlank]
    have quote : BareEnds ['\''] := ⟨by simp, visible, visible⟩
    rw [chars]
    exact quote.append quote _

theorem bareEnds_termText {term : Term} (plain : term.IsPlain) : BareEnds (termText term).toList := by
  rw [termText, String.toList_append, String.toList_append]
  exact (bareEnds_of_isWord plain.1).append (bareEnds_literal plain.2) _

theorem bareEnds_conditionText {terms : List Term} (some : terms ≠ []) (plain : ∀ term ∈ terms, term.IsPlain) :
    BareEnds (conditionText terms).toList := by
  induction terms with
  | nil => exact absurd rfl some
  | cons term rest ih =>
    obtain ⟨first, others⟩ := List.forall_mem_cons.mp plain
    cases rest with
    | nil => exact bareEnds_termText first
    | cons next rest =>
      show BareEnds (termText term ++ " AND " ++ conditionText (next :: rest)).toList
      rw [String.toList_append, String.toList_append]
      exact (bareEnds_termText first).append (ih (by simp) others) _

variable {schema : TableSchema} {dialect : Dialect} {parts : List Value} {map : Option Double} {clause : String}

/-- A predicate has one term for each of its columns. -/
theorem predicateTerms_plain (names : schema.WellNamed) {predicate : KeyPredicate} {terms : List Term}
    (built : dialect.predicateTerms schema predicate = .ok terms) :
    terms.length = predicate.length ∧ ∀ term ∈ terms, term.IsPlain := by
  induction predicate generalizing terms with
  | nil =>
    cases built
    simp
  | cons first rest ih =>
    obtain ⟨name, value⟩ := first
    rw [Dialect.predicateTerms] at built
    cases found : schema.findColumn? name with
    | none => simp [found] at built
    | some column =>
      cases written : dialect.literal column value with
      | error e => simp [found, written] at built
      | ok literal =>
        cases more : dialect.predicateTerms schema rest with
        | error e => simp [found, written, more] at built
        | ok others =>
          simp only [found, written, more] at built
          cases built
          obtain ⟨length, plain⟩ := ih more
          have word : IsWord column.name.toList :=
            isWord_identifier (names.columns column (List.mem_of_find?_eq_some found))
          have isPlain := isPlain_encode (Dialect.literal_eq_ok_iff.mp written)
          exact ⟨by simp [length], List.forall_mem_cons.mpr ⟨⟨word, isPlain⟩, plain⟩⟩

theorem length_ofParts (schema : TableSchema) (parts : List Value) (map : Option Double) :
    (KeyPredicate.ofParts schema parts map).length = keyPrefix schema parts map := by
  obtain ⟨_, fewColumns, fewParts, _⟩ := keyPrefix_spec schema parts map
  rw [ofParts_eq, List.length_zipWith, List.length_take, List.length_take]
  omega

/-- The condition of key parts is empty exactly where no part counts, and
    trimming leaves it alone. -/
theorem keyCondition_trim (names : schema.WellNamed) (built : dialect.keyCondition schema parts map = .ok clause) :
    (clause.isEmpty = true ↔ keyPrefix schema parts map = 0) ∧ Text.trim clause = clause := by
  rw [Dialect.keyCondition, Dialect.predicate] at built
  cases written : dialect.predicateTerms schema (KeyPredicate.ofParts schema parts map) with
  | error fault =>
    rw [written] at built
    cases built
  | ok terms =>
    rw [written] at built
    cases built
    obtain ⟨length, plain⟩ := predicateTerms_plain names written
    rw [length_ofParts] at length
    rw [← length]
    cases terms with
    | nil => exact ⟨iff_of_true rfl rfl, rfl⟩
    | cons first rest =>
      have bare := bareEnds_conditionText (by simp) plain
      refine ⟨iff_of_false ?_ (by simp), ?_⟩
      · simpa [String.isEmpty_iff, ← String.toList_eq_nil_iff] using bare.nonempty
      · rw [Text.trim, trimChars_of_bareEnds bare, String.ofList_toList]

/-! ## Queries -/

/-- The text of a query for the columns of a table, with or without a
    condition. -/
def queryText (schema : TableSchema) (condition : Option String) (filtering : Bool) : String :=
  "SELECT " ++ (if schema.columns.isEmpty then "*" else Text.join ", " (schema.columns.map (·.name))) ++ " FROM " ++
    (schema.keyspace ++ "." ++ schema.table) ++ (condition.elim "" fun clause => " WHERE " ++ clause) ++
    (if filtering then " ALLOW FILTERING" else "")

/-- The query for key parts: without a condition where no part counts, and
    otherwise with theirs, to the letter. -/
theorem text_selectFrom (names : schema.WellNamed) (built : dialect.keyCondition schema parts map = .ok clause)
    (filtering : Bool) : (Statement.selectFrom schema clause filtering).text =
      queryText schema (if keyPrefix schema parts map = 0 then none else some clause) filtering := by
  obtain ⟨empty, trimmed⟩ := keyCondition_trim names built
  have text : (Statement.selectFrom schema clause filtering).text =
      "SELECT " ++ (if (schema.columns.map (·.name)).isEmpty then "*" else
        Text.join ", " (schema.columns.map (·.name))) ++ " FROM " ++ (schema.keyspace ++ "." ++ schema.table) ++
        (if (Text.trim clause).isEmpty then "" else " WHERE " ++ Text.trim clause) ++
        (if filtering then " ALLOW FILTERING" else "") := rfl
  rw [text, trimmed, List.isEmpty_map]
  by_cases none : keyPrefix schema parts map = 0
  · rw [if_pos none, if_pos (empty.mpr none)]
    rfl
  · rw [if_neg none, if_neg (none ∘ empty.mp)]
    rfl

namespace TableHandle

variable {W : Type}

/-- What a look-up sends. A condition that cannot be built is the error, and
    nothing is sent. Otherwise it is the query with the condition, to the client
    of the session or to a new one after what restores its keyspace; and where
    there was a client, or the look-up succeeds, the query is sent. -/
def LookUpSends (config : Config) (schema : TableSchema) (parts : List Value) (map : Option Double)
    (before : TableHandle W) (outcome : Outcome (TableHandle W) Reply) : Prop :=
  match config.dialect.keyCondition schema parts map with
  | .error fault => outcome.result = .error fault ∧ outcome.calls = []
  | .ok clause =>
    let text := queryText schema (if keyPrefix schema parts map = 0 then none else some clause) config.allowFiltering
    let whole := (if before.session.isConnected then [] else before.session.restoring) ++ [text]
    executed outcome.calls <+: whole ∧
      (before.session.isConnected = true ∨ outcome.result.isOk = true → executed outcome.calls = whole)

/-- A client that is given one statement is sent it, whatever comes of it. -/
theorem executed_sends_one {n : Nat} {cql : String} {calls : List ClientCall} {client : Option Nat} {all : Bool}
    (sends : Sends n [cql] calls client all) : executed calls = [cql] := by
  cases sends with
  | answered rest =>
    cases rest
    rfl
  | refused _ | lost _ => rfl

theorem perform_lookUp_error {config : Config} {fault : Fault}
    (failed : config.dialect.keyCondition schema parts map = .error fault) (cluster : Cluster W)
    (handle : TableHandle W) : let outcome := perform config schema cluster (.lookUp parts map) handle
    outcome.result = .error fault ∧ outcome.calls = [] := by
  rw [perform, lookUp, failed]
  exact ⟨rfl, rfl⟩

theorem lookUpSends_perform (names : schema.WellNamed) (config : Config) (cluster : Cluster W)
    (handle : TableHandle W) :
    LookUpSends config schema parts map handle (perform config schema cluster (.lookUp parts map) handle) := by
  unfold LookUpSends
  cases built : config.dialect.keyCondition schema parts map with
  | error fault => exact perform_lookUp_error built cluster handle
  | ok clause =>
    have statements : (Request.lookUp parts map).statements config schema =
        [.selectFrom schema clause config.allowFiltering] := by
      rw [Request.statements, built]
      rfl
    have handled : Handled ((Request.lookUp parts map).statements config schema) handle
        (perform config schema cluster (.lookUp parts map) handle) :=
      handled_perform config schema cluster rfl handle
    rw [statements] at handled
    rcases handled with ⟨⟨all, attempt, whole⟩, _⟩ | ⟨none, _, _⟩
    · rw [List.map_singleton, text_selectFrom names built] at attempt
      refine ⟨attempt.orderly.sends, ?_⟩
      rintro (connected | success)
      · obtain ⟨n, client⟩ := Option.isSome_iff_exists.mp connected
        rw [connected]
        exact executed_sends_one (attempt.sends client).1
      · rw [whole success] at attempt
        exact attempt.executed_eq
    · cases none

end TableHandle

/-! ## The rule on leading parts -/

/-- In a look-up by parts of a key those count that lead, up to the number of
    key columns or parts, the first missing part, and the lowest bits of the map
    that are set without a gap. Its predicate pairs as many key columns and
    parts; its condition has a term for each of them, or is the error of the
    first that cannot be encoded; and the query that is sent holds exactly this
    condition, or none where no part counts. Maps with the same bits do the
    same; parts or bits that are added take none away. -/
theorem leading_parts_count {document : Json} {schema : TableSchema}
    (accepted : TableSchema.ofJson document = .ok schema) (parts : List Value) (map : Option Double) :
    let count := keyPrefix schema parts map
    KeyPredicate.ofParts schema parts map = List.zipWith (fun column part => (column.name, part))
        (schema.keyColumns.take count) (parts.take count) ∧
      (∀ dialect : Dialect, IsCondition dialect.zone (schema.keyColumns.take count) (parts.take count)
        (dialect.keyCondition schema parts map)) ∧
      (∀ {W : Type} (config : Config) (cluster : Cluster W) (handle : TableHandle W),
        TableHandle.LookUpSends config schema parts map handle
          (TableHandle.perform config schema cluster (.lookUp parts map) handle)) ∧
      (∀ more, KeyPredicate.ofParts schema parts map <+: KeyPredicate.ofParts schema (parts ++ more) map) ∧
      ∀ bits, map = some bits → count ≤ 32 ∧
        (∀ other : Double, bits.integerPart % 2 ^ 32 = other.integerPart % 2 ^ 32 →
          KeyPredicate.ofParts schema parts map = KeyPredicate.ofParts schema parts (some other) ∧
          ∀ {W : Type} (config : Config) (cluster : Cluster W) (handle : TableHandle W),
            TableHandle.perform config schema cluster (.lookUp parts map) handle =
              TableHandle.perform config schema cluster (.lookUp parts (some other)) handle) ∧
        ∀ other : Double, (∀ position, (mapWord bits).testBit position = true → (mapWord other).testBit position = true) →
          KeyPredicate.ofParts schema parts map <+: KeyPredicate.ofParts schema parts (some other) := by
  intro count
  have names := wellNamed_of_ofJson accepted
  refine ⟨ofParts_eq schema parts map, fun dialect => Dialect.isCondition_keyCondition names parts map,
    fun config cluster handle => TableHandle.lookUpSends_perform names config cluster handle,
    fun more => ofParts_prefix (keyPrefix_append more), ?_⟩
  rintro bits rfl
  refine ⟨(min_le_right _ _).trans (lowestSet_mapWord_le bits), fun other same => ?_, fun other kept => ?_⟩
  · have congr : KeyPredicate.ofParts schema parts (some bits) = KeyPredicate.ofParts schema parts (some other) :=
      ofParts_congr (congrArg Int.toNat same)
    refine ⟨congr, fun config cluster handle => ?_⟩
    rw [TableHandle.perform, TableHandle.perform, TableHandle.lookUp, TableHandle.lookUp, Dialect.keyCondition,
      Dialect.keyCondition, congr]
  · have grows : keyPrefix schema parts (some bits) ≤ keyPrefix schema (parts ++ []) (some other) := by
      rw [List.append_nil]
      exact keyPrefix_mono kept
    simpa using ofParts_prefix grows

/-- A map past thirty-two bits selects the first two of three parts, one of them
    a text with a quote and one null. -/
theorem two_parts_count :
    let schema : TableSchema := ⟨"shop", "orders", [⟨"day", .integer .int, true, .clusteringKey⟩,
      ⟨"store", .textual .text, true, .partitionKey⟩, ⟨"region", .textual .text, true, .partitionKey⟩]⟩
    let parts : List Value := [.scalar (.text "it's"), .null, .scalar (.bigint 5)]
    let map := Double.ofNat (2 ^ 32 + 3)
    TableSchema.ofJson (.object [("keyspace", .string "shop"), ("table", .string "orders"),
        ("columns", .array [
          .object [("name", .string "day"), ("type", .object [("kind", .string "int")]),
            ("role", .string "clustering_key")],
          .object [("name", .string "store"), ("type", .object [("kind", .string "text")]),
            ("role", .string "partition_key")],
          .object [("name", .string "region"), ("type", .object [("kind", .string "text")]),
            ("role", .string "partition_key")]])]) = .ok schema ∧
      KeyPredicate.ofParts schema parts (some map) = [("store", .scalar (.text "it's")), ("region", .null)] ∧
      (Dialect.mk .utc false).keyCondition schema parts (some map) = .ok "store = 'it''s' AND region = NULL" ∧
      KeyPredicate.ofParts schema parts (some map) = KeyPredicate.ofParts schema parts (some (Double.ofNat 3)) := by
  intro schema parts map
  have accepted : TableSchema.ofJson (.object [("keyspace", .string "shop"), ("table", .string "orders"),
      ("columns", .array [
        .object [("name", .string "day"), ("type", .object [("kind", .string "int")]),
          ("role", .string "clustering_key")],
        .object [("name", .string "store"), ("type", .object [("kind", .string "text")]),
          ("role", .string "partition_key")],
        .object [("name", .string "region"), ("type", .object [("kind", .string "text")]),
          ("role", .string "partition_key")]])]) = .ok schema := by
    rfl
  have count : keyPrefix schema parts (some map) = 2 := by decide +kernel
  obtain ⟨paired, _, _, _, bits⟩ := leading_parts_count accepted parts (some map)
  refine ⟨accepted, ?_, ?_, ((bits map rfl).2.1 (Double.ofNat 3) (by decide +kernel)).1⟩
  · rw [paired, count]
    decide +kernel
  · rw [Dialect.keyCondition, paired, count]
    rfl

end CqlTable
