import CqlTable.Proofs.Statement.Refusals
import Mathlib.Data.Rat.Floor

/-!
# Key parts: how many of them count

A look-up gives parts of a key and may leave some out with a map, so the parts
that count are the leading ones up to the first of four bounds (`keyPrefix`).
The predicate of key parts pairs as many key columns with as many parts
(`ofParts_eq`), and its condition has one equality for each of them or the error
of the first part that cannot be encoded (`isCondition_keyCondition`).
-/

namespace CqlTable

/-! ## Maps of key parts -/

/-- The integer part of a double toward zero; zero for a double that is not
    finite. -/
def Double.integerPart (d : Double) : Int := d.value.num.tdiv d.value.den

/-- The bits of a map of key parts: its integer part modulo two to the
    thirty-two. -/
def mapWord (map : Double) : Nat := (map.integerPart % 2 ^ 32).toNat

/-- How many bits of a word are set from the lowest on without a gap. -/
def lowestSet (word : Nat) : Nat :=
  if word % 2 = 0 then 0 else lowestSet (word / 2) + 1
termination_by word
decreasing_by omega

theorem truncate_eq_tdiv (q : Rat) : Double.truncate q = q.num.tdiv q.den := by
  unfold Double.truncate
  split
  · rename_i negative
    have above : 0 ≤ (-q).num := Rat.num_nonneg.mpr (neg_nonneg.mpr negative.le)
    rw [Rat.neg_num] at above
    rw [Rat.floor_def, Rat.neg_num, Rat.neg_den, ← Int.tdiv_eq_ediv_of_nonneg above, Int.neg_tdiv, neg_neg]
  · rename_i positive
    have above : 0 ≤ q.num := Rat.num_nonneg.mpr (not_lt.mp positive)
    rw [Rat.floor_def, ← Int.tdiv_eq_ediv_of_nonneg above]

theorem word32_eq_mapWord (map : Double) : map.word32 = mapWord map := by
  rw [Double.word32, truncate_eq_tdiv]
  rfl

theorem mapWord_lt (map : Double) : mapWord map < 2 ^ 32 := by
  unfold mapWord
  omega

theorem lt_lowestSet_iff {word position : Nat} :
    position < lowestSet word ↔ ∀ lower ≤ position, word.testBit lower = true := by
  induction word using Nat.strongRecOn generalizing position with
  | ind word ih =>
    rw [lowestSet]
    by_cases even : word % 2 = 0
    · rw [if_pos even]
      refine iff_of_false (Nat.not_lt_zero _) fun all => ?_
      have lowest := all 0 (Nat.zero_le _)
      simp [Nat.testBit_zero, even] at lowest
    · rw [if_neg even]
      have lowest : word.testBit 0 = true := by simpa [Nat.testBit_zero] using even
      cases position with
      | zero => simp [lowest]
      | succ position =>
        rw [Nat.succ_lt_succ_iff, ih (word / 2) (by omega)]
        constructor
        · intro all lower below
          cases lower with
          | zero => exact lowest
          | succ lower => exact Nat.testBit_succ word lower ▸ all lower (Nat.le_of_succ_le_succ below)
        · intro all lower below
          exact Nat.testBit_succ word lower ▸ all (lower + 1) (Nat.succ_le_succ below)

theorem lowestSet_mapWord_le (map : Double) : lowestSet (mapWord map) ≤ 32 := by
  by_contra wide
  have set := lt_lowestSet_iff.mp (Nat.lt_of_not_le wide) 32 le_rfl
  rw [Nat.testBit_lt_two_pow (mapWord_lt map)] at set
  cases set

/-- The bit after the lowest ones without a gap is not set. -/
theorem testBit_lowestSet (word : Nat) : word.testBit (lowestSet word) = false := by
  cases set : word.testBit (lowestSet word) with
  | false => rfl
  | true =>
    refine absurd (lt_lowestSet_iff.mpr fun lower below => ?_) (lt_irrefl (lowestSet word))
    rcases Nat.lt_or_eq_of_le below with inside | rfl
    · exact lt_lowestSet_iff.mp inside lower le_rfl
    · exact set

/-- Bits that are set in addition close no gap. -/
theorem lowestSet_mono {word other : Nat} (kept : ∀ position, word.testBit position = true → other.testBit position = true) :
    lowestSet word ≤ lowestSet other :=
  le_of_forall_lt fun _ inside => lt_lowestSet_iff.mpr fun lower below => kept lower (lt_lowestSet_iff.mp inside lower below)

theorem selectsPart_of_lt {map : Double} {position : Nat} (inside : position < lowestSet (mapWord map)) :
    selectsPart (some map) position = true := by
  have set := lt_lowestSet_iff.mp inside position le_rfl
  have narrow : position < mapBits := inside.trans_le (lowestSet_mapWord_le map)
  simp [selectsPart, word32_eq_mapWord, narrow, set]

theorem selectsPart_lowestSet (map : Double) : selectsPart (some map) (lowestSet (mapWord map)) = false := by
  simp [selectsPart, word32_eq_mapWord, testBit_lowestSet]

/-! ## Leading parts -/

/-- The index of the first part that is missing, or the number of parts where
    none is. -/
def firstMissing (parts : List Value) : Nat := parts.findIdx fun part => part = .missing

/-- How many parts of a key count: the least of the number of key columns, the
    number of parts, the index of the first missing one, and with a map the
    number of its lowest bits that are set without a gap. -/
def keyPrefix (schema : TableSchema) (parts : List Value) (map : Option Double) : Nat :=
  let given := min schema.keyColumns.length (min parts.length (firstMissing parts))
  match map with
  | none => given
  | some map => min given (lowestSet (mapWord map))

variable {schema : TableSchema} {parts : List Value} {map : Option Double} {dialect : Dialect}

/-- Terms are taken as long as there are columns and parts and none of the parts
    is missing or left out, and end where one of these fails. -/
theorem leadingTerms_eq {columns : List Column} {position count : Nat}
    (passed : ∀ index < count, selectsPart map (position + index) = true ∧ parts[index]? ≠ some .missing)
    (fewColumns : count ≤ columns.length) (fewParts : count ≤ parts.length)
    (stopped : count = columns.length ∨ count = parts.length ∨ parts[count]? = some .missing ∨
      selectsPart map (position + count) = false) :
    leadingTerms map position columns parts =
      List.zipWith (fun column part => (column.name, part)) (columns.take count) (parts.take count) := by
  induction columns generalizing position parts count with
  | nil => simp [leadingTerms]
  | cons column rest ih =>
    cases parts with
    | nil => simp [leadingTerms]
    | cons part parts =>
      cases count with
      | zero =>
        have refused : ¬ (selectsPart map position = true ∧ part ≠ .missing) := by
          rcases stopped with none | none | missing | left
          · cases none
          · cases none
          · simpa using fun _ => missing
          · simp [show selectsPart map position = false from left]
        rw [leadingTerms, if_neg refused]
        rfl
      | succ count =>
        obtain ⟨selected, given⟩ := passed 0 (Nat.succ_pos _)
        rw [leadingTerms, if_pos ⟨selected, by simpa using given⟩]
        have shift (index : Nat) : position + 1 + index = position + (index + 1) := by omega
        have others : leadingTerms map (position + 1) rest parts =
            List.zipWith (fun column part => (column.name, part)) (rest.take count) (parts.take count) := by
          refine ih (fun index inside => ?_) (Nat.le_of_succ_le_succ fewColumns) (Nat.le_of_succ_le_succ fewParts) ?_
          · rw [shift]
            simpa using passed (index + 1) (Nat.succ_lt_succ inside)
          · rw [shift]
            simpa using stopped
        rw [others]
        rfl

theorem ne_missing_of_lt {index : Nat} (before : index < firstMissing parts) : parts[index]? ≠ some .missing := by
  intro missing
  obtain ⟨_, missing⟩ := List.getElem?_eq_some_iff.mp missing
  simpa [missing] using List.not_of_lt_findIdx before

theorem firstMissing_cases (parts : List Value) :
    firstMissing parts = parts.length ∨ parts[firstMissing parts]? = some .missing := by
  by_cases short : firstMissing parts < parts.length
  · right
    have found := List.findIdx_getElem (w := short)
    rw [List.getElem?_eq_getElem short, Option.some.injEq]
    exact of_decide_eq_true found
  · exact .inl (le_antisymm List.findIdx_le_length (Nat.le_of_not_lt short))

/-- The parts that count are given and selected, and they end at one of the
    bounds. -/
theorem keyPrefix_spec (schema : TableSchema) (parts : List Value) (map : Option Double) :
    let count := keyPrefix schema parts map
    (∀ index < count, selectsPart map index = true ∧ parts[index]? ≠ some .missing) ∧
      count ≤ schema.keyColumns.length ∧ count ≤ parts.length ∧
      (count = schema.keyColumns.length ∨ count = parts.length ∨ parts[count]? = some .missing ∨
        selectsPart map count = false) := by
  intro count
  obtain ⟨given, givenIs⟩ : ∃ given, given = min schema.keyColumns.length (min parts.length (firstMissing parts)) :=
    ⟨_, rfl⟩
  have first : given ≤ firstMissing parts := by omega
  have ended : given = schema.keyColumns.length ∨ given = parts.length ∨ parts[given]? = some .missing := by
    rcases firstMissing_cases parts with none | missing
    · omega
    · by_cases same : given = firstMissing parts
      · exact .inr (.inr (same ▸ missing))
      · omega
  cases map with
  | none =>
    have count_eq : count = given := givenIs.symm
    rw [count_eq]
    refine ⟨fun index inside => ⟨rfl, ne_missing_of_lt (inside.trans_le first)⟩, by omega, by omega, ?_⟩
    tauto
  | some map =>
    have count_eq : count = min given (lowestSet (mapWord map)) := by
      rw [givenIs]
      rfl
    rw [count_eq]
    refine ⟨fun index inside => ?_, by omega, by omega, ?_⟩
    · obtain ⟨before, set⟩ := lt_min_iff.mp inside
      exact ⟨selectsPart_of_lt set, ne_missing_of_lt (before.trans_le first)⟩
    · rcases min_choice given (lowestSet (mapWord map)) with same | same
      · rw [same]
        tauto
      · rw [same]
        exact .inr (.inr (.inr (selectsPart_lowestSet map)))

/-- The predicate of key parts pairs the leading key columns with the leading
    parts, as many as count. -/
theorem ofParts_eq (schema : TableSchema) (parts : List Value) (map : Option Double) :
    KeyPredicate.ofParts schema parts map =
      List.zipWith (fun column part => (column.name, part)) (schema.keyColumns.take (keyPrefix schema parts map))
        (parts.take (keyPrefix schema parts map)) := by
  obtain ⟨passed, fewColumns, fewParts, stopped⟩ := keyPrefix_spec schema parts map
  refine leadingTerms_eq (fun index inside => ?_) fewColumns fewParts ?_
  · rw [Nat.zero_add]
    exact passed index inside
  · rwa [Nat.zero_add]

/-! ## Other maps and more parts -/

/-- Of a longer list of parts more may count, and those that counted stay. -/
theorem ofParts_prefix {other : Option Double} {more : List Value}
    (grows : keyPrefix schema parts map ≤ keyPrefix schema (parts ++ more) other) :
    KeyPredicate.ofParts schema parts map <+: KeyPredicate.ofParts schema (parts ++ more) other := by
  have fewParts := (keyPrefix_spec schema parts map).2.2.1
  rw [ofParts_eq, ofParts_eq, ← List.take_zipWith, ← List.take_zipWith]
  have same : (List.zipWith (fun column part => (column.name, part)) schema.keyColumns parts).take
      (keyPrefix schema parts map) = (List.zipWith (fun column part => (column.name, part)) schema.keyColumns
        (parts ++ more)).take (keyPrefix schema parts map) := by
    rw [List.take_zipWith, List.take_zipWith, List.take_append_of_le_length fewParts]
  rw [same]
  exact List.take_prefix_take_left grows

/-- Parts that are added at the end take none away. -/
theorem keyPrefix_append (more : List Value) : keyPrefix schema parts map ≤ keyPrefix schema (parts ++ more) map := by
  have later : min parts.length (firstMissing parts) ≤ min (parts ++ more).length (firstMissing (parts ++ more)) := by
    rw [List.length_append, firstMissing, firstMissing, List.findIdx_append]
    split <;> omega
  cases map with
  | none =>
    simp only [keyPrefix]
    omega
  | some map =>
    simp only [keyPrefix]
    omega

/-- Bits that are set in addition in a map take no part away. -/
theorem keyPrefix_mono {map other : Double}
    (kept : ∀ position, (mapWord map).testBit position = true → (mapWord other).testBit position = true) :
    keyPrefix schema parts (some map) ≤ keyPrefix schema parts (some other) :=
  min_le_min_left _ (lowestSet_mono kept)

theorem ofParts_congr {map other : Double} (same : mapWord map = mapWord other) :
    KeyPredicate.ofParts schema parts (some map) = KeyPredicate.ofParts schema parts (some other) := by
  rw [ofParts_eq, ofParts_eq, keyPrefix, keyPrefix, same]

/-! ## Conditions on key parts -/

/-- The condition on columns and parts: an equality of each column with the
    literal of its part, or the error of the first part that cannot be
    encoded. -/
def IsCondition (zone : Calendar.Zone) (columns : List Column) (parts : List Value) : Except Fault String → Prop
  | .ok clause => ∃ literals : List Literal,
      List.zipWith (fun column part => encode zone column.type part) columns parts = literals.map Except.ok ∧
        clause = Text.join " AND " (List.zipWith (fun column literal => column.name ++ " = " ++ literal.text) columns
          literals)
  | .error fault => ∃ e, fault = .conversion e ∧ FirstError (List.zipWith (encodingError zone) columns parts) e

namespace Dialect

theorem literal_eq_ok_iff {column : Column} {part : Value} {literal : Literal} :
    dialect.literal column part = .ok literal ↔ encode dialect.zone column.type part = .ok literal := by
  unfold Dialect.literal
  cases encode dialect.zone column.type part <;> simp

theorem predicateTerms_cons_of_ok (names : schema.WellNamed) {column : Column} (inside : column ∈ schema.columns)
    {part : Value} {literal : Literal} (encoded : encode dialect.zone column.type part = .ok literal)
    (rest : KeyPredicate) : dialect.predicateTerms schema ((column.name, part) :: rest) =
      (dialect.predicateTerms schema rest).map fun terms => (column.name, literal) :: terms := by
  rw [predicateTerms, names.find inside]
  simp only [literal_eq_ok_iff.mpr encoded]
  cases dialect.predicateTerms schema rest with
  | error fault => rfl
  | ok terms => rfl

theorem predicateTerms_cons_of_error (names : schema.WellNamed) {column : Column} (inside : column ∈ schema.columns)
    {part : Value} {e : ConversionError} (refused : encodingError dialect.zone column part = some e)
    (rest : KeyPredicate) :
    dialect.predicateTerms schema ((column.name, part) :: rest) = .error (.conversion e) := by
  rw [predicateTerms, names.find inside]
  simp only [literal_of_encodingError refused]

theorem predicateTerms_eq_ok (names : schema.WellNamed) {columns : List Column} {built : List Term}
    (inside : ∀ column ∈ columns, column ∈ schema.columns)
    (isOk : dialect.predicateTerms schema (List.zipWith (fun column part => (column.name, part)) columns parts) =
      .ok built) :
    ∃ literals : List Literal,
      List.zipWith (fun column part => encode dialect.zone column.type part) columns parts = literals.map Except.ok ∧
        built = List.zipWith (fun column literal => (column.name, literal)) columns literals := by
  induction columns generalizing parts built with
  | nil =>
    cases isOk
    exact ⟨[], rfl, rfl⟩
  | cons column rest ih =>
    cases parts with
    | nil =>
      cases isOk
      exact ⟨[], rfl, rfl⟩
    | cons part parts =>
      obtain ⟨inSchema, others⟩ := List.forall_mem_cons.mp inside
      rw [List.zipWith_cons_cons] at isOk
      cases checked : encodingError dialect.zone column part with
      | some e =>
        rw [predicateTerms_cons_of_error names inSchema checked] at isOk
        cases isOk
      | none =>
        obtain ⟨literal, written⟩ := literal_of_no_error checked
        have encoded := literal_eq_ok_iff.mp written
        rw [predicateTerms_cons_of_ok names inSchema encoded] at isOk
        obtain ⟨terms, more, rfl⟩ := map_eq_ok.mp isOk
        obtain ⟨literals, all, rfl⟩ := ih others more
        refine ⟨literal :: literals, ?_, rfl⟩
        rw [List.zipWith_cons_cons, encoded, all]
        rfl

theorem predicateTerms_eq_error (names : schema.WellNamed) {columns : List Column} {fault : Fault}
    (inside : ∀ column ∈ columns, column ∈ schema.columns)
    (failed : dialect.predicateTerms schema (List.zipWith (fun column part => (column.name, part)) columns parts) =
      .error fault) :
    ∃ e, fault = .conversion e ∧ FirstError (List.zipWith (encodingError dialect.zone) columns parts) e := by
  induction columns generalizing parts with
  | nil => cases failed
  | cons column rest ih =>
    cases parts with
    | nil => cases failed
    | cons part parts =>
      obtain ⟨inSchema, others⟩ := List.forall_mem_cons.mp inside
      rw [List.zipWith_cons_cons] at failed ⊢
      cases checked : encodingError dialect.zone column part with
      | some e =>
        rw [predicateTerms_cons_of_error names inSchema checked] at failed
        cases failed
        exact ⟨e, rfl, firstError_some_cons.mpr rfl⟩
      | none =>
        obtain ⟨literal, written⟩ := literal_of_no_error checked
        rw [predicateTerms_cons_of_ok names inSchema (literal_eq_ok_iff.mp written)] at failed
        obtain ⟨e, isConversion, first⟩ := ih others (map_eq_error.mp failed)
        exact ⟨e, isConversion, firstError_none_cons.mpr first⟩

/-- The condition of key parts is that on the leading columns and parts that
    count. -/
theorem isCondition_keyCondition (names : schema.WellNamed) (parts : List Value) (map : Option Double) :
    IsCondition dialect.zone (schema.keyColumns.take (keyPrefix schema parts map))
      (parts.take (keyPrefix schema parts map)) (dialect.keyCondition schema parts map) := by
  have inside : ∀ column ∈ schema.keyColumns.take (keyPrefix schema parts map), column ∈ schema.columns :=
    fun column inFront => mem_keyColumns (List.mem_of_mem_take inFront)
  rw [keyCondition, predicate, ofParts_eq]
  cases terms : dialect.predicateTerms schema (List.zipWith (fun column part => (column.name, part))
      (schema.keyColumns.take (keyPrefix schema parts map)) (parts.take (keyPrefix schema parts map))) with
  | error fault => exact predicateTerms_eq_error names inside terms
  | ok terms' =>
    obtain ⟨literals, all, rfl⟩ := predicateTerms_eq_ok names inside terms
    refine ⟨literals, all, ?_⟩
    rw [conditionText, List.map_zipWith]
    rfl

end Dialect

end CqlTable
