import CqlTable.Proofs.Statement.KeyOrder
import CqlTable.Proofs.Statement.Reading

/-!
# Table names: what the log reads off a statement

A keyword counts where a word begins and a blank follows it, so a search passes by
every word that opens nothing (`search?_past`). The statements that are built for a
table are read as their kind and their table; only a query whose last column is
called `from`, in any letter case, is read otherwise, since the keyword is first
found there (`table_named_iff`).
-/

namespace CqlTable

open Text

variable {kind : StatementKind} {mark : TableMark} {word rest name : List Char} {words : List String} {c : Char}

/-! ## Words and keywords -/

theorem isWordChar_eq (c : Char) : isWordChar c = isNameChar c := by
  simp only [isWordChar, isNameChar, isNameStart, Bool.or_assoc, Bool.or_comm (decide ('0' ≤ c) && decide (c ≤ '9'))]

theorem not_isBlank_of_isWordChar (inside : isWordChar c = true) : isBlank c = false :=
  not_isBlank_of_isTokenChar (by simp [isTokenChar, ← isWordChar_eq, inside])

/-- Names are made of the characters of words, at least one. -/
structure IsName (name : List Char) : Prop where
  nonempty : name ≠ []
  inside : ∀ c ∈ name, isWordChar c = true

theorem isName_identifier {s : String} (identifier : isIdentifier s = true) : IsName s.toList := by
  obtain ⟨nonempty, chars⟩ := chars_of_isIdentifier identifier
  refine ⟨nonempty, fun c inside => ?_⟩
  rw [isWordChar_eq, chars c inside]

theorem IsName.dropWhile_blank (isName : IsName name) (rest : List Char) :
    (name ++ rest).dropWhile isBlank = name ++ rest :=
  dropWhile_append_of_none (fun c inside => not_isBlank_of_isWordChar (isName.inside c inside)) isName.nonempty

/-- Only letters have capitals. -/
theorem isWordChar_of_upperAscii (capital : 'A' ≤ upperAscii c ∧ upperAscii c ≤ 'Z') : isWordChar c = true := by
  unfold upperAscii at capital
  split at capital
  · rename_i small
    simp [isWordChar, small]
  · simp [isWordChar, capital]

/-- A keyword is a word of capitals. -/
def IsKeyword (keyword : String) : Prop := keyword.toList ≠ [] ∧ ∀ w ∈ keyword.toList, 'A' ≤ w ∧ w ≤ 'Z'

instance (keyword : String) : Decidable (IsKeyword keyword) :=
  decidable_of_iff (keyword.toList.isEmpty = false ∧ keyword.toList.all (fun w => 'A' ≤ w && w ≤ 'Z') = true)
    (by simp [IsKeyword])

theorem IsKeyword.map_upperAscii {keyword : String} (isKeyword : IsKeyword keyword) :
    keyword.toList.map upperAscii = keyword.toList := by
  have same : ∀ w ∈ keyword.toList, upperAscii w = id w := by
    intro w inside
    have capital := isKeyword.2 w inside
    have noSmall : ¬ ('a' ≤ w ∧ w ≤ 'z') := fun small =>
      absurd (Char.le_trans small.1 capital.2) (by decide)
    rw [upperAscii, if_neg noSmall, id]
  rw [List.map_congr_left same, List.map_id]

theorem IsKeyword.isName {keyword : String} (isKeyword : IsKeyword keyword) : IsName keyword.toList := by
  refine ⟨isKeyword.1, fun w inside => ?_⟩
  simp [isWordChar, isKeyword.2 w inside]

/-- A keyword that a word and something else follow is that word, and what follows is
    a blank. -/
theorem afterKeywordGap?_word {keyword : String} (isKeyword : IsKeyword keyword)
    (inside : ∀ d ∈ word, isWordChar d = true) (gap : isWordChar c = false) (rest : List Char) :
    afterKeywordGap? keyword (word ++ c :: rest) =
      if word.map upperAscii = keyword.toList ∧ isBlank c = true then some (rest.dropWhile isBlank) else none := by
  obtain ⟨-, capitals⟩ := isKeyword
  unfold afterKeywordGap?
  generalize keyword.toList = letters at capitals
  induction letters generalizing word with
  | nil =>
    cases word with
    | nil => simp [afterKeyword?]
    | cons d others => simp [afterKeyword?, not_isBlank_of_isWordChar (inside d (by simp))]
  | cons w letters ih =>
    obtain ⟨capital, later⟩ := List.forall_mem_cons.mp capitals
    cases word with
    | nil =>
      have other : upperAscii c ≠ w := by
        rintro rfl
        rw [isWordChar_of_upperAscii capital] at gap
        cases gap
      simp [afterKeyword?, other]
    | cons d others =>
      by_cases same : upperAscii d = w
      · simpa [afterKeyword?, same] using ih (fun e inOthers => inside e (by simp [inOthers])) later
      · simp [afterKeyword?, same]

/-- Words before a text, with a space after each. -/
def behindWords : List String → List Char → List Char
  | [], cs => cs
  | word :: words, cs => word.toList ++ ' ' :: behindWords words cs

theorem dropWhile_behindWords (keywords : ∀ word ∈ words, IsKeyword word) (bare : rest.dropWhile isBlank = rest) :
    (behindWords words rest).dropWhile isBlank = behindWords words rest := by
  cases words with
  | nil => exact bare
  | cons word words => exact (keywords word (by simp)).isName.dropWhile_blank _

theorem afterPhrase?_behindWords (keywords : ∀ word ∈ words, IsKeyword word) (bare : rest.dropWhile isBlank = rest) :
    afterPhrase? words (behindWords words rest) = some rest := by
  induction words with
  | nil => rfl
  | cons word words ih =>
    obtain ⟨isKeyword, others⟩ := List.forall_mem_cons.mp keywords
    have gap : afterKeywordGap? word (word.toList ++ ' ' :: behindWords words rest) =
        some (behindWords words rest) := by
      rw [afterKeywordGap?_word isKeyword isKeyword.isName.inside (by decide),
        if_pos ⟨isKeyword.map_upperAscii, by decide⟩, dropWhile_behindWords others bare]
    rw [behindWords, afterPhrase?, gap, Option.bind_some, ih others]

/-! ## Names -/

theorem Ends.boundary (ends : Ends rest) : ∀ c ∈ rest.head?, isWordChar c = false ∧ c ≠ '.' := by
  rintro c first
  cases rest with
  | nil => cases first
  | cons d rest =>
    cases first
    have noToken := ends.2
    simp only [isTokenChar, Bool.or_eq_false_iff] at noToken
    obtain ⟨⟨⟨noName, noPoint⟩, -⟩, -⟩ := noToken
    exact ⟨by rw [isWordChar_eq, noName], by simpa using noPoint⟩

theorem IsName.takeWhile (isName : IsName name) (boundary : ∀ c ∈ rest.head?, isWordChar c = false) :
    (name ++ rest).takeWhile isWordChar = name := by
  have stop : rest.takeWhile isWordChar = [] := by
    cases rest with
    | nil => rfl
    | cons c rest => simp [boundary c rfl]
  rw [List.takeWhile_append_of_pos isName.inside, stop, List.append_nil]

theorem IsName.dropWhile (isName : IsName name) (boundary : ∀ c ∈ rest.head?, isWordChar c = false) :
    (name ++ rest).dropWhile isWordChar = rest := by
  rw [List.dropWhile_append_of_pos isName.inside]
  cases rest with
  | nil => rfl
  | cons c rest => simp [boundary c rfl]

/-- The name is read where it stands, whatever ends it. -/
def ReadsName (dotted : Bool) (name : List Char) : Prop :=
  ∀ rest, Ends rest → nameAt? dotted (name ++ rest) = some name

theorem IsName.readsName (isName : IsName name) (dotted : Bool) : ReadsName dotted name := by
  intro rest ends
  have boundary := ends.boundary
  unfold nameAt?
  rw [isName.takeWhile fun c first => (boundary c first).1, isName.dropWhile fun c first => (boundary c first).1]
  split
  · rename_i empty
    exact absurd rfl isName.nonempty
  · split
    · exact absurd rfl (boundary '.' rfl).2
    · rfl

theorem readsName_qualified {keyspace table : List Char} (isKeyspace : IsName keyspace) (isTable : IsName table) :
    ReadsName true (keyspace ++ '.' :: table) := by
  intro rest ends
  have point : ∀ c ∈ ('.' :: (table ++ rest)).head?, isWordChar c = false := by
    rintro c ⟨⟩
    decide
  have boundary : ∀ c ∈ rest.head?, isWordChar c = false := fun c first => (ends.boundary c first).1
  rw [List.append_assoc, List.cons_append]
  unfold nameAt?
  rw [isKeyspace.takeWhile point, isKeyspace.dropWhile point]
  split
  · exact absurd rfl isKeyspace.nonempty
  · simp only [isTable.takeWhile boundary]
    split
    · exact absurd rfl isTable.nonempty
    · rfl

theorem dropWhile_of_nameAt? {dotted : Bool} (named : nameAt? dotted rest = some name) :
    rest.dropWhile isBlank = rest := by
  cases rest with
  | nil => rfl
  | cons c rest =>
    cases isWord : isWordChar c with
    | true => simp [not_isBlank_of_isWordChar isWord]
    | false => simp [nameAt?, isWord] at named

/-! ## Searching for an opener -/

namespace TableMark

/-- The word is an opener of the mark, in any letter case. -/
def Opens (mark : TableMark) (word : List Char) : Prop :=
  ∃ opener ∈ mark.openers, word.map upperAscii = opener.toList

instance (mark : TableMark) (word : List Char) : Decidable (mark.Opens word) :=
  inferInstanceAs (Decidable (∃ opener ∈ mark.openers, _))

/-- The name after an opener, and after the phrase where that is there. -/
def nameAfter? (mark : TableMark) (rest : List Char) : Option (List Char) :=
  ((afterPhrase? mark.phrase rest).bind (nameAt? mark.dotted)).or (nameAt? mark.dotted rest)

/-- The openers and the phrase of a mark are keywords. -/
def IsPlain (mark : TableMark) : Prop := ∀ keyword ∈ mark.openers ++ mark.phrase, IsKeyword keyword

theorem isPlain_of_kind (marked : kind.mark? = some mark) : mark.IsPlain := by
  unfold IsPlain
  cases kind <;> cases marked <;> decide

/-- The word of a kind opens its mark just where the mark is first in the text. -/
theorem opens_word_iff (marked : kind.mark? = some mark) : mark.Opens kind.word.toList ↔ mark.first = true := by
  cases kind <;> cases marked <;> decide

theorem findSome?_afterKeywordGap? {openers : List String} (keywords : ∀ opener ∈ openers, IsKeyword opener)
    (inside : ∀ d ∈ word, isWordChar d = true) (gap : isWordChar c = false) (rest : List Char) :
    (openers.findSome? fun opener => afterKeywordGap? opener (word ++ c :: rest)) =
      if (∃ opener ∈ openers, word.map upperAscii = opener.toList) ∧ isBlank c = true then
        some (rest.dropWhile isBlank)
      else none := by
  induction openers with
  | nil => simp
  | cons opener others ih =>
    obtain ⟨isKeyword, later⟩ := List.forall_mem_cons.mp keywords
    rw [List.findSome?_cons, afterKeywordGap?_word isKeyword inside gap, ih later]
    by_cases same : word.map upperAscii = opener.toList
    · by_cases blank : isBlank c = true
      · simp [same, blank]
      · simp [blank]
    · simp [same]

/-- A name stands at a word exactly if that is an opener and a blank follows. -/
theorem nameHere?_word (plain : mark.IsPlain) (inside : ∀ d ∈ word, isWordChar d = true) (gap : isWordChar c = false)
    (rest : List Char) : mark.nameHere? (word ++ c :: rest) =
      if mark.Opens word ∧ isBlank c = true then mark.nameAfter? (rest.dropWhile isBlank) else none := by
  have keywords : ∀ opener ∈ mark.openers, IsKeyword opener := fun opener inOpeners =>
    plain opener (List.mem_append_left _ inOpeners)
  rw [nameHere?, findSome?_afterKeywordGap? keywords inside gap]
  unfold Opens
  split
  · rfl
  · rfl

theorem search?_inWord (inside : ∀ d ∈ word, isWordChar d = true) (gap : isWordChar c = false) (rest : List Char) :
    mark.search? true (word ++ c :: rest) = mark.search? false rest := by
  induction word with
  | nil => simp [search?, gap]
  | cons d others ih =>
    obtain ⟨isWord, later⟩ := List.forall_mem_cons.mp inside
    simpa [search?, isWord] using ih later

/-- A search passes by a word that is no opener, or that no blank follows. -/
theorem search?_past (plain : mark.IsPlain) (inside : ∀ d ∈ word, isWordChar d = true) (gap : isWordChar c = false)
    (passes : ¬ (mark.Opens word ∧ isBlank c = true)) (rest : List Char) :
    mark.search? false (word ++ c :: rest) = mark.search? false rest := by
  have nothing := nameHere?_word plain inside gap rest
  rw [if_neg passes] at nothing
  cases word with
  | nil =>
    rw [List.nil_append] at nothing
    simp [search?, nothing, gap]
  | cons d others =>
    obtain ⟨isWord, later⟩ := List.forall_mem_cons.mp inside
    rw [List.cons_append] at nothing
    simpa [search?, nothing, isWord] using search?_inWord later gap rest

theorem search?_gap (plain : mark.IsPlain) (gap : isWordChar c = false) (rest : List Char) :
    mark.search? false (c :: rest) = mark.search? false rest := by
  have noOpener : ¬ (mark.Opens [] ∧ isBlank c = true) := by
    rintro ⟨⟨opener, isOpener, empty⟩, -⟩
    exact (plain opener (List.mem_append_left _ isOpener)).1 empty.symm
  exact search?_past plain (by simp) gap noOpener rest

theorem search?_of_name {cs : List Char} (named : mark.nameHere? cs = some name) (nonempty : cs ≠ []) :
    mark.search? false cs = some name := by
  cases cs with
  | nil => exact absurd rfl nonempty
  | cons c rest => simp [search?, named]

/-- A search ends at an opener before a name. -/
theorem search?_opener (plain : mark.IsPlain) (inside : ∀ d ∈ word, isWordChar d = true) (opens : mark.Opens word)
    (bare : rest.dropWhile isBlank = rest) (named : mark.nameAfter? rest = some name) :
    mark.search? false (word ++ ' ' :: rest) = some name := by
  apply search?_of_name
  · rw [nameHere?_word plain inside (by decide), if_pos ⟨opens, by decide⟩, bare, named]
  · simp

/-! ## After an opener -/

theorem nameAfter?_plain (noPhrase : mark.phrase = []) (rest : List Char) :
    mark.nameAfter? rest = nameAt? mark.dotted rest := by
  simp [nameAfter?, noPhrase, afterPhrase?]

/-- A phrase does not begin at a name before a point. -/
theorem nameAfter?_point (plain : mark.IsPlain) (isName : IsName name) (rest : List Char) :
    mark.nameAfter? (name ++ '.' :: rest) = nameAt? mark.dotted (name ++ '.' :: rest) := by
  cases phrase : mark.phrase with
  | nil => exact nameAfter?_plain phrase _
  | cons keyword others =>
    have isKeyword : IsKeyword keyword := plain keyword (by simp [phrase])
    have noGap := afterKeywordGap?_word isKeyword isName.inside (by decide : isWordChar '.' = false) rest
    rw [if_neg fun matched => absurd matched.2 (by decide)] at noGap
    rw [nameAfter?, phrase, afterPhrase?, noGap, Option.bind_none, Option.bind_none, Option.none_or]

theorem nameAfter?_phrase (plain : mark.IsPlain) (named : nameAt? mark.dotted rest = some name) :
    mark.nameAfter? (behindWords mark.phrase rest) = some name := by
  have keywords : ∀ word ∈ mark.phrase, IsKeyword word := fun word inPhrase =>
    plain word (List.mem_append_right _ inPhrase)
  rw [nameAfter?, afterPhrase?_behindWords keywords (dropWhile_of_nameAt? named), Option.bind_some, named,
    Option.some_or]

end TableMark

/-! ## Kinds and names of texts -/

/-- The kind and the name that the log shows for a text. -/
structure LoggedAs (cql : String) (kind : StatementKind) (name : String) : Prop where
  kind : StatementKind.ofText cql = kind
  name : tableName cql = name

theorem isKeyword_word (kind : StatementKind) : IsKeyword kind.word := by
  cases kind <;> decide

theorem loggedAs_of_name {cql named : String} (read : StatementKind.ofText cql = kind)
    (found : tableName? cql = some named.toList) : LoggedAs cql kind named := by
  refine ⟨read, ?_⟩
  unfold tableName
  rw [found]
  exact String.ofList_toList

/-- The text has words first and then the name, which ends there. -/
def Begins (cql : String) (words : List String) (named : String) : Prop :=
  ∃ rest, Ends rest ∧ cql.toList = behindWords words (named.toList ++ rest)

/-- A text is read at the opener behind the word of its kind. -/
theorem loggedAs_of_opener (opener : String) {cql named : String} (marked : kind.mark? = some mark)
    (anywhere : mark.first = false) (isOpener : opener ∈ mark.openers) (reads : ReadsName mark.dotted named.toList)
    (begins : Begins cql (kind.word :: opener :: mark.phrase) named) : LoggedAs cql kind named := by
  obtain ⟨rest, ends, text⟩ := begins
  have plain := TableMark.isPlain_of_kind marked
  have isKeyword := plain opener (List.mem_append_left _ isOpener)
  have phrase : ∀ word ∈ mark.phrase, IsKeyword word := fun word inPhrase =>
    plain word (List.mem_append_right _ inPhrase)
  have passes : ¬ (mark.Opens kind.word.toList ∧ isBlank ' ' = true) := by
    rw [TableMark.opens_word_iff marked, anywhere]
    simp
  have nameHere := reads rest ends
  have found := TableMark.search?_opener plain isKeyword.isName.inside ⟨opener, isOpener, isKeyword.map_upperAscii⟩
    (dropWhile_behindWords phrase (dropWhile_of_nameAt? nameHere)) (TableMark.nameAfter?_phrase plain nameHere)
  have read : StatementKind.ofText cql = kind := StatementKind.ofText_word text
  refine loggedAs_of_name read ?_
  rw [tableName?, read, marked, Option.bind_some, anywhere, if_neg Bool.false_ne_true, text, behindWords, behindWords,
    TableMark.search?_past plain (isKeyword_word kind).isName.inside (by decide) passes, found]

/-- A text is read behind the word of its kind. -/
theorem loggedAs_of_first {cql named : String} (marked : kind.mark? = some mark) (first : mark.first = true)
    (nameAfter : ∀ rest, Ends rest → mark.nameAfter? (named.toList ++ rest) = some named.toList)
    (reads : ReadsName mark.dotted named.toList) (begins : Begins cql [kind.word] named) : LoggedAs cql kind named := by
  obtain ⟨rest, ends, text⟩ := begins
  have isName := (isKeyword_word kind).isName
  have found := TableMark.nameHere?_word (TableMark.isPlain_of_kind marked) isName.inside
    (by decide : isWordChar ' ' = false) (named.toList ++ rest)
  rw [if_pos ⟨(TableMark.opens_word_iff marked).mpr first, by decide⟩, dropWhile_of_nameAt? (reads rest ends),
    nameAfter rest ends] at found
  have read : StatementKind.ofText cql = kind := StatementKind.ofText_word text
  refine loggedAs_of_name read ?_
  rw [tableName?, read, marked, Option.bind_some, if_pos first, text, behindWords, behindWords,
    isName.dropWhile_blank, found]

/-! ## Statements with the name behind fixed words -/

theorem behindWords_eq_append (words : List String) (rest : List Char) :
    behindWords words rest = behindWords words [] ++ rest := by
  induction words with
  | nil => rfl
  | cons word words ih => rw [behindWords, behindWords, ih, List.append_assoc, List.cons_append]

theorem begins_whole {front : String} (isFront : front.toList = behindWords words []) (named : String) :
    Begins (front ++ named) words named := by
  refine ⟨[], trivial, ?_⟩
  rw [String.toList_append, isFront, List.append_nil, behindWords_eq_append words named.toList]

theorem begins_gap {front gap : String} (isFront : front.toList = behindWords words []) (ends : Ends gap.toList)
    (nonempty : gap.toList ≠ []) (named after : String) : Begins (front ++ (named ++ (gap ++ after))) words named := by
  refine ⟨gap.toList ++ after.toList, ends.append nonempty _, ?_⟩
  rw [behindWords_eq_append, String.toList_append, String.toList_append, String.toList_append, isFront]

/-- The words that a statement begins with and the name behind them; in a query there
    are columns between. -/
def Statement.opening? : Statement → Option (List String × String)
  | createKeyspace keyspace _ => some (["CREATE", "KEYSPACE", "IF", "NOT", "EXISTS"], keyspace)
  | useKeyspace keyspace => some (["USE"], keyspace)
  | createTable table _ _ => some (["CREATE", "TABLE", "IF", "NOT", "EXISTS"], table)
  | dropTable table => some (["DROP", "TABLE", "IF", "EXISTS"], table)
  | truncate table => some (["TRUNCATE"], table)
  | insert table _ => some (["INSERT", "INTO"], table)
  | update table _ _ => some (["UPDATE"], table)
  | delete table _ => some (["DELETE", "FROM"], table)
  | select .. => none

theorem begins_of_opening {statement : Statement} {named : String}
    (opening : statement.opening? = some (words, named)) : Begins statement.text words named := by
  cases statement with
  | select => cases opening
  | useKeyspace | dropTable | truncate =>
    cases opening
    exact begins_whole (by decide) _
  | createKeyspace | createTable | insert | update | delete =>
    cases opening
    unfold Statement.text
    simp only [String.append_assoc]
    exact begins_gap (by decide) (by decide) (by decide) _ _

section

variable {table : String}

theorem loggedAs_insert (reads : ReadsName true table.toList) (cells : List Term) :
    LoggedAs (Statement.insert table cells).text .insert table :=
  loggedAs_of_opener "INTO" rfl rfl (by simp) reads (begins_of_opening rfl)

theorem loggedAs_delete (reads : ReadsName true table.toList) (key : List Term) :
    LoggedAs (Statement.delete table key).text .delete table :=
  loggedAs_of_opener "FROM" rfl rfl (by simp) reads (begins_of_opening rfl)

theorem loggedAs_createTable (reads : ReadsName true table.toList) (columns : List (String × String))
    (key : Option PrimaryKey) : LoggedAs (Statement.createTable table columns key).text .create table :=
  loggedAs_of_opener "TABLE" rfl rfl (by simp) reads (begins_of_opening rfl)

theorem loggedAs_createKeyspace {keyspace : String} (reads : ReadsName true keyspace.toList) (replicas : Double) :
    LoggedAs (Statement.createKeyspace keyspace replicas).text .create keyspace :=
  loggedAs_of_opener "KEYSPACE" rfl rfl (by simp) reads (begins_of_opening rfl)

theorem loggedAs_dropTable (reads : ReadsName true table.toList) :
    LoggedAs (Statement.dropTable table).text .drop table :=
  loggedAs_of_opener "TABLE" rfl rfl (by simp) reads (begins_of_opening rfl)

theorem loggedAs_update (reads : ReadsName true table.toList) (assignments key : List Term) :
    LoggedAs (Statement.update table assignments key).text .update table := by
  refine loggedAs_of_first rfl rfl (fun rest ends => ?_) reads (begins_of_opening rfl)
  rw [TableMark.nameAfter?_plain rfl, reads rest ends]

theorem loggedAs_useKeyspace {keyspace : String} (reads : ReadsName false keyspace.toList) :
    LoggedAs (Statement.useKeyspace keyspace).text .use keyspace := by
  refine loggedAs_of_first rfl rfl (fun rest ends => ?_) reads (begins_of_opening rfl)
  rw [TableMark.nameAfter?_plain rfl, reads rest ends]

end

/-! ## Tables of schemas -/

theorem toList_qualifiedName (schema : TableSchema) :
    schema.qualifiedName.toList = schema.keyspace.toList ++ '.' :: schema.table.toList := by
  rw [TableSchema.qualifiedName, String.toList_append, String.toList_append, List.append_assoc]
  rfl

theorem readsName_qualifiedName {schema : TableSchema} (names : schema.WellNamed) :
    ReadsName true schema.qualifiedName.toList := by
  rw [toList_qualifiedName]
  exact readsName_qualified (isName_identifier names.keyspace) (isName_identifier names.table)

theorem loggedAs_truncate {schema : TableSchema} (names : schema.WellNamed) :
    LoggedAs (Statement.truncate schema.qualifiedName).text .truncate schema.qualifiedName := by
  have marked : StatementKind.truncate.mark? = some ⟨true, ["TRUNCATE"], ["TABLE"], true⟩ := rfl
  have reads := readsName_qualifiedName names
  refine loggedAs_of_first marked rfl (fun rest ends => ?_) reads (begins_of_opening rfl)
  have read := reads rest ends
  have isName := isName_identifier names.keyspace
  rw [toList_qualifiedName, List.append_assoc, List.cons_append] at read ⊢
  rw [TableMark.nameAfter?_point (TableMark.isPlain_of_kind marked) isName, read]

/-! ## Queries -/

/-- The last column is called as the keyword before the table of a query. -/
def EndsInFrom (schema : TableSchema) : Prop := ∃ column ∈ schema.columns.getLast?, sameName column.name "from" = true

/-- The mark of queries. -/
def fromMark : TableMark := ⟨false, ["FROM"], [], true⟩

theorem mark?_select : StatementKind.select.mark? = some fromMark := rfl

theorem isPlain_fromMark : fromMark.IsPlain := TableMark.isPlain_of_kind mark?_select

theorem isKeyword_from : IsKeyword "FROM" := isPlain_fromMark "FROM" (by simp [fromMark])

theorem opens_fromMark_iff {s : String} (isName : IsName s.toList) :
    fromMark.Opens s.toList ↔ sameName s "from" = true := by
  have ascii {name : List Char} (isName : IsName name) : ∀ c ∈ name, c.toNat < 128 := fun c inside =>
    ascii_of_isNameChar (isWordChar_eq c ▸ isName.inside c inside)
  have isFrom : IsName "from".toList := isName_identifier (by decide)
  have capitals : "from".toList.map upperAscii = "FROM".toList := by decide
  rw [sameName_iff_of_ascii (ascii isName) (ascii isFrom), capitals]
  simp [TableMark.Opens, fromMark]

/-- A search passes by all columns but the last, which commas follow. -/
theorem search?_columns (plain : mark.IsPlain) {columns : List String}
    (names : ∀ name ∈ columns, IsName name.toList) (last : String) (rest : List Char) :
    mark.search? false ((join ", " (columns ++ [last])).toList ++ rest) =
      mark.search? false (last.toList ++ rest) := by
  induction columns with
  | nil => rfl
  | cons column columns ih =>
    obtain ⟨isName, others⟩ := List.forall_mem_cons.mp names
    have text : (join ", " (column :: (columns ++ [last]))).toList ++ rest =
        column.toList ++ ',' :: ' ' :: ((join ", " (columns ++ [last])).toList ++ rest) := by
      rw [join, String.toList_append, String.toList_append, List.append_assoc, List.append_assoc]
      · rfl
      · simp
    have comma : ¬ (mark.Opens column.toList ∧ isBlank ',' = true) := fun both => absurd both.2 (by decide)
    rw [List.cons_append, text, TableMark.search?_past plain isName.inside (by decide) comma,
      TableMark.search?_gap plain (by decide), ih others]

theorem text_select (table : String) (columns : List String) (condition : String) (filtering : Bool) :
    ∃ rest, Ends rest ∧ (Statement.select table columns condition filtering).text.toList =
      behindWords ["SELECT"] ((if columns.isEmpty then "*" else join ", " columns).toList ++
        ' ' :: behindWords ["FROM"] (table.toList ++ rest)) := by
  refine ⟨(if condition.isEmpty then "" else " WHERE " ++ condition).toList ++
    (if filtering then " ALLOW FILTERING" else "").toList, ?_, ?_⟩
  · split
    · cases filtering <;> decide
    · rw [String.toList_append, List.append_assoc]
      exact Ends.append (by decide) (by decide) _
  · have select : "SELECT ".toList = behindWords ["SELECT"] [] := by decide
    have source : " FROM ".toList = ' ' :: behindWords ["FROM"] [] := by decide
    unfold Statement.text
    simp only [String.toList_append, List.append_assoc]
    rw [select, source, behindWords_eq_append ["SELECT"] (_ ++ _), behindWords_eq_append ["FROM"] (table.toList ++ _),
      List.cons_append]

/-- A query is read where the search for its mark ends. -/
theorem loggedAs_of_query {cql named : String} (text : cql.toList = behindWords ["SELECT"] rest)
    (found : fromMark.search? false rest = some named.toList) : LoggedAs cql .select named := by
  have read : StatementKind.ofText cql = .select := StatementKind.ofText_word text
  have passes : ¬ (fromMark.Opens "SELECT".toList ∧ isBlank ' ' = true) := fun both =>
    absurd ((TableMark.opens_word_iff mark?_select).mp both.1) Bool.false_ne_true
  have whole : fromMark.search? false (behindWords ["SELECT"] rest) = fromMark.search? false rest :=
    TableMark.search?_past isPlain_fromMark (isKeyword_word .select).isName.inside (by decide) passes rest
  refine loggedAs_of_name read ?_
  rw [tableName?, read, text]
  exact whole.trans found

theorem search?_from (reads : ReadsName true name) (ends : Ends rest) :
    fromMark.search? false (behindWords ["FROM"] (name ++ rest)) = some name := by
  have read := reads rest ends
  have opens : fromMark.Opens "FROM".toList := ⟨"FROM", by simp [fromMark], isKeyword_from.map_upperAscii⟩
  exact TableMark.search?_opener isPlain_fromMark isKeyword_from.isName.inside opens (dropWhile_of_nameAt? read)
    ((TableMark.nameAfter?_plain rfl _).trans read)

variable {schema : TableSchema} (names : schema.WellNamed) (condition : String) (filtering : Bool)

include names

theorem search?_shown {before : List Column} {last : Column} (columns : schema.columns = before ++ [last])
    (rest : List Char) :
    fromMark.search? false ((if (schema.columns.map (·.name)).isEmpty then "*"
      else join ", " (schema.columns.map (·.name))).toList ++ rest) =
        fromMark.search? false (last.name.toList ++ rest) := by
  have some : ¬ (schema.columns.map (·.name)).isEmpty = true := by simp [columns]
  have isNames : ∀ name ∈ before.map (·.name), IsName name.toList :=
    List.forall_mem_map.mpr fun column inBefore =>
      isName_identifier (names.columns column (by simp [columns, inBefore]))
  rw [if_neg some, columns, List.map_append, List.map_singleton, search?_columns isPlain_fromMark isNames]

/-- A query whose last column is not called as the keyword is read as its table. -/
theorem loggedAs_select (other : ¬ EndsInFrom schema) :
    LoggedAs (Statement.selectFrom schema condition filtering).text .select schema.qualifiedName := by
  obtain ⟨rest, ends, text⟩ := text_select schema.qualifiedName (schema.columns.map (·.name)) (trim condition) filtering
  refine loggedAs_of_query text ?_
  have found := search?_from (readsName_qualifiedName names) ends
  rcases List.eq_nil_or_concat' schema.columns with none | ⟨before, last, columns⟩
  · rw [none]
    exact ((TableMark.search?_gap isPlain_fromMark (by decide) _).trans
      (TableMark.search?_gap isPlain_fromMark (by decide) _)).trans found
  · have isName := isName_identifier (names.columns last (by simp [columns]))
    have passes : ¬ (fromMark.Opens last.name.toList ∧ isBlank ' ' = true) := fun both =>
      other ⟨last, by simp [columns], (opens_fromMark_iff isName).mp both.1⟩
    rw [search?_shown names columns, TableMark.search?_past isPlain_fromMark isName.inside (by decide) passes, found]

/-- A query whose last column is called as the keyword is read as the keyword. -/
theorem loggedAs_select_from (isFrom : EndsInFrom schema) :
    LoggedAs (Statement.selectFrom schema condition filtering).text .select "FROM" := by
  obtain ⟨rest, -, text⟩ := text_select schema.qualifiedName (schema.columns.map (·.name)) (trim condition) filtering
  obtain ⟨last, isLast, same⟩ := isFrom
  have columns : schema.columns = schema.columns.dropLast ++ [last] :=
    (List.dropLast_append_getLast? last isLast).symm
  have isName := isName_identifier (names.columns last (List.mem_of_getLast? isLast))
  have named : nameAt? true ("FROM".toList ++ ' ' :: (schema.qualifiedName.toList ++ rest)) = some "FROM".toList :=
    isKeyword_from.isName.readsName true _ ⟨by decide, by decide⟩
  refine loggedAs_of_query text ?_
  rw [search?_shown names columns, behindWords, behindWords]
  exact TableMark.search?_opener isPlain_fromMark isName.inside ((opens_fromMark_iff isName).mpr same)
    (dropWhile_of_nameAt? named) ((TableMark.nameAfter?_plain rfl _).trans named)

omit names

theorem qualifiedName_ne_from (schema : TableSchema) : schema.qualifiedName ≠ "FROM" := by
  intro same
  have point : '.' ∈ schema.qualifiedName.toList := by simp [toList_qualifiedName]
  rw [same] at point
  exact absurd point (by decide)

/-- The log shows the statements that are built for a table as their kind and
    their table, whatever their names and values are: an update of a table whose
    columns are all in the key as the insertion that it is, and a query of any
    condition exactly if its last column is not called as the keyword before the
    table, which is shown in the place of the table otherwise. Statements about a
    keyspace are shown as their kind and the keyspace. -/
theorem table_named_iff {document : Json} {schema : TableSchema}
    (accepted : TableSchema.ofJson document = .ok schema) (dialect : Dialect) :
    (∀ row statement, dialect.insert schema row = .ok statement →
      LoggedAs statement.text .insert schema.qualifiedName) ∧
    (∀ old new statement, dialect.update schema old new = .ok statement →
      LoggedAs statement.text (if schema.otherColumns = [] then .insert else .update) schema.qualifiedName) ∧
    (∀ row statement, dialect.delete schema row = .ok statement →
      LoggedAs statement.text .delete schema.qualifiedName) ∧
    (∀ statement, dialect.createTable schema = .ok statement →
      LoggedAs statement.text .create schema.qualifiedName) ∧
    LoggedAs (Statement.dropTable schema.qualifiedName).text .drop schema.qualifiedName ∧
    LoggedAs (Statement.truncate schema.qualifiedName).text .truncate schema.qualifiedName ∧
    (∀ condition filtering, let query := (Statement.selectFrom schema condition filtering).text
      (LoggedAs query .select schema.qualifiedName ↔ ¬ EndsInFrom schema) ∧
      (LoggedAs query .select "FROM" ↔ EndsInFrom schema)) ∧
    ∀ keyspace, isIdentifier keyspace = true →
      (∀ replicas, LoggedAs (Statement.createKeyspace keyspace replicas).text .create keyspace) ∧
      LoggedAs (Statement.useKeyspace keyspace).text .use keyspace := by
  have names := wellNamed_of_ofJson accepted
  have reads := readsName_qualifiedName names
  refine ⟨?insert, ?update, ?delete, ?create, loggedAs_dropTable reads, loggedAs_truncate names, ?select, ?keyspace⟩
  case insert =>
    intro row statement built
    obtain ⟨cells, rfl, -⟩ := Dialect.insertInto_eq_ok built
    exact loggedAs_insert reads cells
  case update =>
    intro old new statement built
    rcases Dialect.update_eq_ok names built with ⟨keyOnly, cells, rfl, -⟩ | ⟨others, assigned, key, rfl, -⟩
    · rw [if_pos keyOnly]
      exact loggedAs_insert reads cells
    · rw [if_neg others]
      exact loggedAs_update reads assigned key
  case delete =>
    intro row statement built
    obtain ⟨key, rfl, -⟩ := Dialect.delete_eq_ok names built
    exact loggedAs_delete reads key
  case create =>
    intro statement built
    rw [createTable_eq_ok built]
    exact loggedAs_createTable reads _ _
  case select =>
    intro condition filtering query
    by_cases isFrom : EndsInFrom schema
    · have keyword := loggedAs_select_from names condition filtering isFrom
      refine ⟨iff_of_false (fun table => ?_) (fun other => other isFrom), iff_of_true keyword isFrom⟩
      exact qualifiedName_ne_from schema (table.name.symm.trans keyword.name)
    · have table := loggedAs_select names condition filtering isFrom
      refine ⟨iff_of_true table isFrom, iff_of_false (fun keyword => ?_) isFrom⟩
      exact qualifiedName_ne_from schema (table.name.symm.trans keyword.name)
  case keyspace =>
    intro keyspace identifier
    have isName := isName_identifier identifier
    exact ⟨loggedAs_createKeyspace (isName.readsName true), loggedAs_useKeyspace (isName.readsName false)⟩

/-- A column called `from` before the last one hides no table, and keywords may name
    keyspaces. -/
theorem mail_named :
    let schema : TableSchema := ⟨"shop", "mail", [⟨"from", .textual .text, true, .regular⟩,
      ⟨"id", .integer .int, true, .partitionKey⟩]⟩
    TableSchema.ofJson (.object [("keyspace", .string "shop"), ("table", .string "mail"), ("columns", .array [
        .object [("name", .string "from"), ("type", .object [("kind", .string "text")])],
        .object [("name", .string "id"), ("type", .object [("kind", .string "int")]),
          ("role", .string "partition_key")]])]) = .ok schema ∧
      LoggedAs (Statement.selectFrom schema "id = 7" true).text .select "shop.mail" ∧
      (∃ statement, (Dialect.mk .utc true).createTable schema = .ok statement ∧
        LoggedAs statement.text .create "shop.mail") ∧
      LoggedAs (Statement.useKeyspace "Table").text .use "Table" := by
  intro schema
  have accepted : TableSchema.ofJson (.object [("keyspace", .string "shop"), ("table", .string "mail"),
      ("columns", .array [
        .object [("name", .string "from"), ("type", .object [("kind", .string "text")])],
        .object [("name", .string "id"), ("type", .object [("kind", .string "int")]),
          ("role", .string "partition_key")]])]) = .ok schema := by
    rfl
  obtain ⟨-, -, -, created, -, -, queries, keyspaces⟩ := table_named_iff accepted (Dialect.mk .utc true)
  have other : ¬ EndsInFrom schema := by
    rintro ⟨column, ⟨⟩, same⟩
    exact absurd same (by decide)
  exact ⟨accepted, (queries "id = 7" true).1.mpr other, ⟨_, rfl, created _ rfl⟩, (keyspaces "Table" (by decide)).2⟩

/-- The only column of the table is called `from`: the log shows the keyword after it
    as the table. -/
theorem keyword_shown_as_table :
    let schema : TableSchema := ⟨"shop", "t", [⟨"from", .textual .text, true, .regular⟩]⟩
    TableSchema.ofJson (.object [("keyspace", .string "shop"), ("table", .string "t"), ("columns", .array [
        .object [("name", .string "from"), ("type", .object [("kind", .string "text")])]])]) = .ok schema ∧
      (Statement.selectFrom schema "" true).text = "SELECT from FROM shop.t ALLOW FILTERING" ∧
      tableName (Statement.selectFrom schema "" true).text = "FROM" ∧
      tableName (Statement.selectFrom schema "" true).text ≠ schema.qualifiedName := by
  refine ⟨by rfl, by decide, by decide, by decide⟩

end CqlTable
