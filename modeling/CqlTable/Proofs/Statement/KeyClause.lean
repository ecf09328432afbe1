import CqlTable.Proofs.Statement.Structure

/-!
# Key clauses: the key of a new table, read back from its text

A reader that knows only the words `PRIMARY KEY` and parentheses takes the inside
of a key clause from a text (`keyClause`). On the text that creates a table it
finds the clause of its key and nothing else, also where columns have names such
as `PRIMARY` or `KEY` (`keyClause_createTable`).
-/

namespace CqlTable

/-! ## Reading a clause -/

/-- The tokens that open a key clause. -/
def keyMark : List Token := [.word "PRIMARY", .word "KEY", .mark '(']

/-- What follows the first place where the tokens stand one after the other. -/
def afterTokens (mark : List Token) : List Token → Option (List Token)
  | [] => none
  | token :: rest =>
    if mark.isPrefixOf (token :: rest) then some ((token :: rest).drop mark.length) else afterTokens mark rest

/-- The tokens up to the closing parenthesis that is one too many. -/
def upToClose : Nat → List Token → List Token
  | _, [] => []
  | depth, token :: rest =>
    if token = .mark '(' then token :: upToClose (depth + 1) rest
    else if token = .mark ')' then
      match depth with
      | 0 => []
      | depth + 1 => token :: upToClose depth rest
    else token :: upToClose depth rest

/-- The inside of the key clause of a text, if it has one. -/
def keyClause (text : String) : Option (List Token) := (afterTokens keyMark (scan text)).map (upToClose 0)

/-- The words among tokens. -/
def wordsOf (tokens : List Token) : List String :=
  tokens.filterMap fun token =>
    match token with
    | .word text => some text
    | _ => none

/-- No token is a parenthesis. -/
def IsFlat (tokens : List Token) : Prop := ∀ token ∈ tokens, token ≠ .mark '(' ∧ token ≠ .mark ')'

/-- The names in order, of which a group of several has parentheses around
    it. -/
structure ListsNames (inside : List Token) (names group : List String) : Prop where
  names : wordsOf inside = names
  nested : .mark '(' ∈ inside ↔ 2 ≤ group.length
  grouped : .mark '(' ∈ inside → ∃ within after, inside = .mark '(' :: within ++ .mark ')' :: after ∧
    wordsOf within = group ∧ IsFlat within ∧ IsFlat after

theorem wordsOf_append (tokens more : List Token) : wordsOf (tokens ++ more) = wordsOf tokens ++ wordsOf more :=
  List.filterMap_append

theorem upToClose_flat {tokens : List Token} (flat : IsFlat tokens) (depth : Nat) (rest : List Token) :
    upToClose depth (tokens ++ rest) = tokens ++ upToClose depth rest := by
  induction tokens with
  | nil => rfl
  | cons token others ih =>
    obtain ⟨⟨notOpen, notClose⟩, later⟩ := List.forall_mem_cons.mp flat
    simp [upToClose, notOpen, notClose, ih later]

/-- A clause is read up to its own closing parenthesis. -/
theorem upToClose_of_lists {inside : List Token} {names group : List String} (lists : ListsNames inside names group)
    (flat : .mark '(' ∉ inside → IsFlat inside) (rest : List Token) :
    upToClose 0 (inside ++ .mark ')' :: rest) = inside := by
  have closing (rest : List Token) : upToClose 0 (.mark ')' :: rest) = [] := by simp [upToClose]
  by_cases nested : .mark '(' ∈ inside
  · obtain ⟨within, after, rfl, -, flatWithin, flatAfter⟩ := lists.grouped nested
    have opened (rest : List Token) : upToClose 0 (.mark '(' :: rest) = .mark '(' :: upToClose 1 rest := by
      simp [upToClose]
    have closed (rest : List Token) : upToClose 1 (.mark ')' :: rest) = .mark ')' :: upToClose 0 rest := by
      simp [upToClose]
    rw [List.append_assoc, List.cons_append, List.cons_append, opened, upToClose_flat flatWithin, closed,
      upToClose_flat flatAfter, closing, List.append_nil, List.cons_append]
  · rw [upToClose_flat (flat nested), closing, List.append_nil]

/-! ## Names of a key -/

/-- Names with commas between. -/
def nameTokens (names : List String) : List Token :=
  [Token.mark ','].intercalate (names.map fun name => [.word name])

/-- What stands between the parentheses of a key clause. -/
def PrimaryKey.inside (key : PrimaryKey) : List Token :=
  let partition :=
    if 1 < key.partition.length then [.mark '(' :: nameTokens key.partition ++ [.mark ')']]
    else key.partition.map fun name => [.word name]
  [Token.mark ','].intercalate (partition ++ key.clustering.map fun name => [.word name])

theorem nameTokens_cons_cons (name next : String) (rest : List String) :
    nameTokens (name :: next :: rest) = .word name :: .mark ',' :: nameTokens (next :: rest) := by
  simp [nameTokens, List.intercalate]

theorem wordsOf_nameTokens (names : List String) : wordsOf (nameTokens names) = names := by
  induction names with
  | nil => rfl
  | cons name rest ih =>
    cases rest with
    | nil => rfl
    | cons next rest =>
      rw [nameTokens_cons_cons, wordsOf, List.filterMap_cons, List.filterMap_cons]
      exact congrArg (name :: ·) ih

theorem isFlat_nameTokens (names : List String) : IsFlat (nameTokens names) := by
  have word (name : String) : Token.word name ≠ .mark '(' ∧ Token.word name ≠ .mark ')' := ⟨nofun, nofun⟩
  induction names with
  | nil => nofun
  | cons name rest ih =>
    cases rest with
    | nil => exact List.forall_mem_singleton.mpr (word name)
    | cons next rest =>
      rw [nameTokens_cons_cons]
      exact List.forall_mem_cons.mpr ⟨word name, List.forall_mem_cons.mpr ⟨by decide, ih⟩⟩

theorem not_mem_of_isFlat {tokens : List Token} (flat : IsFlat tokens) : .mark '(' ∉ tokens := fun inside =>
  (flat _ inside).1 rfl

namespace PrimaryKey

theorem inside_single {key : PrimaryKey} (single : ¬ 1 < key.partition.length) :
    key.inside = nameTokens (key.partition ++ key.clustering) := by
  rw [inside, if_neg single, ← List.map_append]
  rfl

theorem inside_several {key : PrimaryKey} (several : 1 < key.partition.length) :
    ∃ after, key.inside = .mark '(' :: nameTokens key.partition ++ .mark ')' :: after ∧
      wordsOf after = key.clustering ∧ IsFlat after := by
  rw [inside, if_pos several]
  cases clustering : key.clustering with
  | nil => exact ⟨[], by simp, rfl, nofun⟩
  | cons name rest =>
    refine ⟨.mark ',' :: nameTokens (name :: rest), ?_, wordsOf_nameTokens _, ?_⟩
    · simp [nameTokens, List.intercalate]
    · exact List.forall_mem_cons.mpr ⟨by decide, isFlat_nameTokens _⟩

theorem inside_lists (key : PrimaryKey) :
    ListsNames key.inside (key.partition ++ key.clustering) key.partition ∧
      (.mark '(' ∉ key.inside → IsFlat key.inside) := by
  by_cases several : 1 < key.partition.length
  · obtain ⟨after, shape, words, flat⟩ := inside_several several
    have nested : .mark '(' ∈ key.inside := by simp [shape]
    refine ⟨⟨?_, iff_of_true nested several, fun _ => ⟨_, after, shape, wordsOf_nameTokens _, isFlat_nameTokens _,
      flat⟩⟩, fun flatInside => absurd nested flatInside⟩
    rw [shape, wordsOf_append]
    exact congrArg₂ (· ++ ·) (wordsOf_nameTokens _) words
  · have flat : IsFlat key.inside := inside_single several ▸ isFlat_nameTokens _
    refine ⟨⟨?_, iff_of_false (not_mem_of_isFlat flat) several, fun nested => absurd nested (not_mem_of_isFlat flat)⟩,
      fun _ => flat⟩
    rw [inside_single several, wordsOf_nameTokens]

end PrimaryKey

/-! ## The text that creates a table -/

/-- The tokens of a key clause. -/
def PrimaryKey.tokens (key : PrimaryKey) : List Token := keyMark ++ key.inside ++ [.mark ')']

/-- The tokens of a column with its type. -/
def definitionTokens (definition : String × String) : List Token := [.word definition.1, .word definition.2]

/-- The tokens that create a table: the columns with their types, and the key. -/
def createTableTokens (table : String) (columns : List (String × String)) (key : Option PrimaryKey) : List Token :=
  [.word "CREATE", .word "TABLE", .word "IF", .word "NOT", .word "EXISTS", .word table, .mark '('] ++
    [Token.mark ','].intercalate (columns.map definitionTokens ++ (key.map PrimaryKey.tokens).toList) ++ [.mark ')']

theorem ReadsClosed.reads {text : String} {tokens : List Token} (closed : ReadsClosed text tokens) :
    Reads text tokens := fun rest _ => closed rest

theorem separator_close : Separator ")" [.mark ')'] := ⟨by decide, by decide, fun _ => rfl⟩

theorem separator_blank : Separator " " [] := ⟨by decide, by decide, fun _ => rfl⟩

theorem reads_names {names : List String} (words : ∀ name ∈ names, IsWord name.toList) :
    List.Forall₂ Reads names (names.map fun name => [.word name]) :=
  List.forall₂_map_right_iff.mpr (List.forall₂_same.mpr fun name inside => reads_word (words name inside))

theorem reads_primaryKey {key : PrimaryKey} (words : ∀ name ∈ key.partition ++ key.clustering, IsWord name.toList) :
    Reads key.text key.tokens := by
  obtain ⟨partition, clustering⟩ := List.forall_mem_append.mp words
  have group : List.Forall₂ Reads
      (if 1 < key.partition.length then ["(" ++ Text.join ", " key.partition ++ ")"] else key.partition)
      (if 1 < key.partition.length then [.mark '(' :: nameTokens key.partition ++ [.mark ')']]
        else key.partition.map fun name => [.word name]) := by
    split
    · have left : ReadsClosed "(" [.mark '('] := fun _ => rfl
      have names := reads_list separator_comma (reads_names partition)
      exact .cons ((left.append_reads names).append_separator separator_close).reads .nil
    · exact reads_names partition
  have names := reads_list separator_comma (List.rel_append group (reads_names clustering))
  have opening : ReadsClosed "PRIMARY KEY (" keyMark := fun _ => rfl
  exact ((opening.append_reads names).append_separator separator_close).reads

theorem scan_createTable {table : String} (word : IsWord table.toList) {columns : List (String × String)}
    (plain : ∀ definition ∈ columns, IsWord definition.1.toList ∧ IsWord definition.2.toList)
    {key : Option PrimaryKey} (words : ∀ k ∈ key, ∀ name ∈ k.partition ++ k.clustering, IsWord name.toList) :
    scan (Statement.createTable table columns key).text = createTableTokens table columns key := by
  have definitions : List.Forall₂ Reads (columns.map fun column => column.1 ++ " " ++ column.2)
      (columns.map definitionTokens) := by
    refine List.forall₂_map_left_iff.mpr (List.forall₂_map_right_iff.mpr (List.forall₂_same.mpr ?_))
    intro column inside
    obtain ⟨name, type⟩ := plain column inside
    exact ((reads_word name).append_separator separator_blank).append_reads (reads_word type)
  have clause : List.Forall₂ Reads (key.map PrimaryKey.text).toList (key.map PrimaryKey.tokens).toList := by
    cases key with
    | none => exact .nil
    | some key => exact .cons (reads_primaryKey (words key rfl)) .nil
  have pieces := reads_list separator_comma (List.rel_append definitions clause)
  have opening : ReadsClosed "CREATE TABLE IF NOT EXISTS "
      [.word "CREATE", .word "TABLE", .word "IF", .word "NOT", .word "EXISTS"] := fun _ => rfl
  have left : Separator " (" [.mark '('] := ⟨by decide, by decide, fun _ => rfl⟩
  have columnsOpen := (opening.append_reads (reads_word word)).append_separator left
  exact scan_of_reads ((columnsOpen.append_reads pieces).append_separator separator_close).reads

/-! ## The clause in the text -/

theorem afterTokens_skip {token : Token} (other : token ≠ .word "PRIMARY") (rest : List Token) :
    afterTokens keyMark (token :: rest) = afterTokens keyMark rest := by
  have notHere : keyMark.isPrefixOf (token :: rest) = false := by simp [keyMark, List.isPrefixOf, Ne.symm other]
  rw [afterTokens, notHere, if_neg Bool.false_ne_true]

/-- Not even the word `PRIMARY` opens a clause where no `KEY` follows. -/
theorem afterTokens_skip_next {token next : Token} (other : next ≠ .word "KEY") (rest : List Token) :
    afterTokens keyMark (token :: next :: rest) = afterTokens keyMark (next :: rest) := by
  have notHere : keyMark.isPrefixOf (token :: next :: rest) = false := by
    simp [keyMark, List.isPrefixOf, Ne.symm other]
  rw [afterTokens, notHere, if_neg Bool.false_ne_true]

theorem afterTokens_definitions {columns : List (String × String)}
    (types : ∀ definition ∈ columns, definition.2 ≠ "KEY" ∧ definition.2 ≠ "PRIMARY") (rest : List Token) :
    afterTokens keyMark ((columns.flatMap fun column => definitionTokens column ++ [.mark ',']) ++ rest) =
      afterTokens keyMark rest := by
  induction columns with
  | nil => rfl
  | cons column others ih =>
    obtain ⟨⟨notKey, notPrimary⟩, later⟩ := List.forall_mem_cons.mp types
    have skipped (rest : List Token) :
        afterTokens keyMark (definitionTokens column ++ [.mark ','] ++ rest) = afterTokens keyMark rest := by
      simp only [definitionTokens, List.cons_append, List.nil_append]
      rw [afterTokens_skip_next (by simpa using notKey), afterTokens_skip (by simpa using notPrimary),
        afterTokens_skip (by decide)]
    rw [List.flatMap_cons, List.append_assoc, skipped, ih later]

theorem intercalate_concat (mark : Token) (pieces : List (List Token)) (last : List Token) :
    [mark].intercalate (pieces ++ [last]) = (pieces.flatMap fun piece => piece ++ [mark]) ++ last := by
  induction pieces with
  | nil => simp
  | cons piece rest ih =>
    rw [List.cons_append, List.intercalate_cons_of_ne_nil (by simp), ih]
    simp

/-- The words before the columns open no clause. -/
theorem afterTokens_opening (table : String) (rest : List Token) :
    afterTokens keyMark ([.word "CREATE", .word "TABLE", .word "IF", .word "NOT", .word "EXISTS", .word table,
      .mark '('] ++ rest) = afterTokens keyMark rest := by
  simp only [List.cons_append, List.nil_append]
  rw [afterTokens_skip (by decide), afterTokens_skip (by decide), afterTokens_skip (by decide),
    afterTokens_skip (by decide), afterTokens_skip (by decide), afterTokens_skip_next (by decide),
    afterTokens_skip (by decide)]

/-- The clause that is found is that of the key; without columns there is none. -/
theorem keyClause_createTable {text table : String} {columns : List (String × String)} {key : PrimaryKey}
    (types : ∀ definition ∈ columns, definition.2 ≠ "KEY" ∧ definition.2 ≠ "PRIMARY")
    (scanned : scan text = createTableTokens table columns (some key)) : keyClause text = some key.inside := by
  obtain ⟨lists, flat⟩ := key.inside_lists
  have found (rest : List Token) : afterTokens keyMark (keyMark ++ rest) = some rest := by
    simp [afterTokens, keyMark, List.isPrefixOf]
  have pieces : [Token.mark ','].intercalate (columns.map definitionTokens ++ [key.tokens]) =
      (columns.flatMap fun column => definitionTokens column ++ [.mark ',']) ++ key.tokens := by
    rw [intercalate_concat, List.flatMap_map]
  have tokens : afterTokens keyMark (createTableTokens table columns (some key)) =
      some (key.inside ++ [.mark ')'] ++ [.mark ')']) := by
    simp only [createTableTokens, Option.map_some, Option.toList_some, pieces]
    rw [List.append_assoc, List.append_assoc, afterTokens_opening, afterTokens_definitions types, PrimaryKey.tokens,
      List.append_assoc, List.append_assoc, found, List.append_assoc]
  rw [keyClause, scanned, tokens, Option.map_some, List.append_assoc]
  exact congrArg some (upToClose_of_lists lists flat _)

theorem keyClause_createTable_nil {text table : String} (scanned : scan text = createTableTokens table [] none) :
    keyClause text = none := by
  have tokens : createTableTokens table [] none =
      [.word "CREATE", .word "TABLE", .word "IF", .word "NOT", .word "EXISTS", .word table, .mark '('] ++
        [.mark ')'] := rfl
  rw [keyClause, scanned, tokens, afterTokens_opening, afterTokens_skip (by decide)]
  rfl

end CqlTable
