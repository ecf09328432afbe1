import CqlTable.Conversion.Literal
import CqlTable.Schema.Table
import CqlTable.Text.Blank
import CqlTable.Text.Pieces
import Mathlib.Data.List.Forall2

/-!
# Scanning: statements by the rule on quotes alone

The scanner reads any text. It knows that a string goes from a quote to the
next quote that is not doubled; all else is outside of strings, in words and
marks.
-/

namespace CqlTable

/-! ## The scanner -/

/-- A piece of a statement. The inside of a string is what stands between its
    quotes. -/
inductive Token
  | word (text : String)
  | mark (c : Char)
  | quoted (inside : String)
  | unclosed (inside : String)
  deriving DecidableEq

/-- A token as it is written. -/
def Token.text : Token → String
  | word text => text
  | mark c => String.singleton c
  | quoted inside => "'" ++ inside ++ "'"
  | unclosed inside => "'" ++ inside

/-- The token can stand for a value. -/
def Token.IsLiteral : Token → Prop
  | word _ | quoted _ => True
  | mark _ | unclosed _ => False

/-- A character of names and numerals. -/
def isTokenChar (c : Char) : Bool := isNameChar c || c == '.' || c == '+' || c == '-'

/-- Where a scanner is, with what it has seen of a word or string. -/
inductive Place
  | outside
  | word (before : List Char)
  | string (before : List Char)
  | quote (before : List Char)

/-- What a text that ends at a place ends with. -/
def Place.tokens : Place → List Token
  | outside => []
  | word before => [.word (String.ofList before)]
  | string before => [.unclosed (String.ofList before)]
  | quote before => [.quoted (String.ofList before)]

/-- A character outside of words and strings: the marks that it is and where
    it leads. -/
def enter (c : Char) : List Token × Place :=
  if c = '\'' then ([], .string [])
  else if isTokenChar c then ([], .word [c])
  else if Text.isBlank c then ([], .outside)
  else ([.mark c], .outside)

/-- A character after which a word or string is over. -/
def Place.leave (place : Place) (c : Char) : List Token × Place :=
  (place.tokens ++ (enter c).1, (enter c).2)

/-- The tokens that end before a character, and where it leads. -/
def Place.step (place : Place) (c : Char) : List Token × Place :=
  match place with
  | .outside => enter c
  | .word before => if isTokenChar c then ([], .word (before ++ [c])) else place.leave c
  | .string before => if c = '\'' then ([], .quote before) else ([], .string (before ++ [c]))
  | .quote before => if c = '\'' then ([], .string (before ++ ['\'', '\''])) else place.leave c

/-- The tokens of a text that begins at a place. -/
def scanFrom : Place → List Char → List Token
  | place, [] => place.tokens
  | place, c :: rest => (place.step c).1 ++ scanFrom (place.step c).2 rest

/-- The tokens of a text. -/
def scan (text : String) : List Token := scanFrom .outside text.toList

/-- A text with each pair of quotes as one. -/
def halveQuotes : List Char → List Char
  | '\'' :: '\'' :: rest => '\'' :: halveQuotes rest
  | c :: rest => c :: halveQuotes rest
  | [] => []

/-- The text that the inside of a string stands for. -/
def undouble (inside : String) : String := String.ofList (halveQuotes inside.toList)

theorem halveQuotes_doubleQuotes (cs : List Char) : halveQuotes (doubleQuotes cs) = cs := by
  induction cs with
  | nil => rfl
  | cons c rest ih =>
    by_cases quote : c = '\''
    · subst quote
      simp [doubleQuotes, halveQuotes, ih]
    · simp [doubleQuotes, halveQuotes, quote, ih]

theorem undouble_escape (s : String) : undouble (escape s) = s := by
  simp [undouble, escape, halveQuotes_doubleQuotes]

/-! ## Reading a text to its end -/

/-- What follows a word or string and ends it: nothing, or a character that
    continues neither. -/
def Ends : List Char → Prop
  | [] => True
  | c :: _ => c ≠ '\'' ∧ isTokenChar c = false

instance : ∀ rest, Decidable (Ends rest)
  | [] => inferInstanceAs (Decidable True)
  | _ :: _ => inferInstanceAs (Decidable (_ ∧ _))

/-- The text is read as the tokens, whatever follows. -/
def ReadsClosed (text : String) (tokens : List Token) : Prop :=
  ∀ rest, scanFrom .outside (text.toList ++ rest) = tokens ++ scanFrom .outside rest

/-- The text is read as the tokens where it ends. -/
def Reads (text : String) (tokens : List Token) : Prop :=
  ∀ rest, Ends rest → scanFrom .outside (text.toList ++ rest) = tokens ++ scanFrom .outside rest

/-- The text is read as the tokens whatever is around it: it begins with a
    character that ends what is before it. -/
structure Separator (mark : String) (between : List Token) : Prop where
  nonempty : mark.toList ≠ []
  ends : Ends mark.toList
  closed : ReadsClosed mark between

theorem scan_of_reads {text : String} {tokens : List Token} (reads : Reads text tokens) : scan text = tokens := by
  have whole := reads [] trivial
  simpa [scan, scanFrom, Place.tokens] using whole

theorem Ends.append {cs : List Char} (ends : Ends cs) (nonempty : cs ≠ []) (rest : List Char) : Ends (cs ++ rest) := by
  cases cs with
  | nil => exact absurd rfl nonempty
  | cons c cs => exact ends

theorem Separator.ends_append {mark : String} {between : List Token} (separator : Separator mark between)
    (rest : List Char) : Ends (mark.toList ++ rest) :=
  separator.ends.append separator.nonempty rest

theorem ReadsClosed.append_reads {a b : String} {s t : List Token} (first : ReadsClosed a s)
    (second : Reads b t) : Reads (a ++ b) (s ++ t) := by
  intro rest ends
  rw [String.toList_append, List.append_assoc, first, second rest ends, List.append_assoc]

theorem Reads.append_separator {a b : String} {s t : List Token} (first : Reads a s) (second : Separator b t) :
    ReadsClosed (a ++ b) (s ++ t) := by
  intro rest
  rw [String.toList_append, List.append_assoc, first _ (second.ends_append rest), second.closed, List.append_assoc]

/-- Texts between separators are read one by one. -/
theorem reads_list {mark : String} {between : List Token} (separator : Separator mark between) {texts : List String}
    {tokens : List (List Token)} (each : List.Forall₂ Reads texts tokens) :
    Reads (Text.join mark texts) (between.intercalate tokens) := by
  induction each with
  | nil =>
    intro rest ends
    simp [Text.join]
  | cons head others tail =>
    cases others with
    | nil => simpa [Text.join] using head
    | cons next others =>
      have both := (head.append_separator separator).append_reads tail
      simpa [Text.join, List.intercalate, List.intersperse] using both

theorem reads_join {α : Type} {mark : String} {between : List Token} {text : α → String} {tokens : α → List Token}
    (separator : Separator mark between) (items : List α) (each : ∀ a ∈ items, Reads (text a) (tokens a)) :
    Reads (Text.join mark (items.map text)) (between.intercalate (items.map tokens)) :=
  reads_list separator (List.forall₂_map_left_iff.mpr (List.forall₂_map_right_iff.mpr (List.forall₂_same.mpr each)))

/-! ## Words, strings and marks -/

/-- A nonempty text of characters of words. -/
def IsWord (cs : List Char) : Prop := cs ≠ [] ∧ ∀ c ∈ cs, isTokenChar c = true

instance (cs : List Char) : Decidable (IsWord cs) :=
  decidable_of_iff (cs.isEmpty = false ∧ cs.all isTokenChar = true) (by simp [IsWord])

theorem scanFrom_word {before cs : List Char} (rest : List Char) (word : ∀ c ∈ cs, isTokenChar c = true) :
    scanFrom (.word before) (cs ++ rest) = scanFrom (.word (before ++ cs)) rest := by
  induction cs generalizing before with
  | nil => simp
  | cons c cs ih =>
    have isWord := word c (by simp)
    have others : scanFrom (.word (before ++ [c])) (cs ++ rest) = scanFrom (.word (before ++ [c] ++ cs)) rest :=
      ih fun d inside => word d (by simp [inside])
    simp [scanFrom, Place.step, isWord, others]

theorem scanFrom_ends {place : Place} {rest : List Char} (ends : Ends rest)
    (leaves : ∀ c, c ≠ '\'' → isTokenChar c = false → place.step c = place.leave c) :
    scanFrom place rest = place.tokens ++ scanFrom .outside rest := by
  cases rest with
  | nil => simp [scanFrom, Place.tokens]
  | cons c rest =>
    obtain ⟨notQuote, notWord⟩ := ends
    have enters : Place.outside.step c = enter c := rfl
    simp only [scanFrom, leaves c notQuote notWord, Place.leave, enters, List.append_assoc]

theorem reads_word {w : String} (word : IsWord w.toList) : Reads w [.word w] := by
  obtain ⟨nonempty, all⟩ := word
  intro rest ends
  cases chars : w.toList with
  | nil => exact absurd chars nonempty
  | cons c cs =>
    rw [chars] at all
    have isWord := all c (by simp)
    have notQuote : c ≠ '\'' := by
      rintro rfl
      exact absurd isWord (by decide)
    have whole : String.ofList (c :: cs) = w := by rw [← chars, String.ofList_toList]
    have ended : scanFrom (.word ([c] ++ cs)) rest = [.word w] ++ scanFrom .outside rest := by
      rw [scanFrom_ends ends fun d _ notWord => by simp [Place.step, notWord]]
      simp [Place.tokens, whole]
    rw [List.cons_append, scanFrom, Place.step, enter, if_neg notQuote, if_pos isWord]
    simp only [List.nil_append]
    rw [scanFrom_word rest fun d inside => all d (by simp [inside]), ended]

theorem scanFrom_string {before : List Char} (cs rest : List Char) :
    scanFrom (.string before) (doubleQuotes cs ++ rest) = scanFrom (.string (before ++ doubleQuotes cs)) rest := by
  induction cs generalizing before with
  | nil => simp [doubleQuotes]
  | cons c cs ih =>
    by_cases quote : c = '\''
    -- The first of two quotes leaves the string only as far as the second leads back.
    · simp [doubleQuotes, quote, scanFrom, Place.step, ih]
    · simp [doubleQuotes, quote, scanFrom, Place.step, ih]

/-- An escaped text between quotes is one string, whatever its characters. -/
theorem reads_quoted (s : String) : Reads ("'" ++ escape s ++ "'") [.quoted (escape s)] := by
  intro rest ends
  have ended : scanFrom (.quote (doubleQuotes s.toList)) rest =
      [.quoted (escape s)] ++ scanFrom .outside rest := by
    rw [scanFrom_ends ends fun d notQuote _ => by simp [Place.step, notQuote]]
    simp [Place.tokens, escape]
  have inside : scanFrom (.string []) (doubleQuotes s.toList ++ '\'' :: rest) =
      scanFrom (.quote (doubleQuotes s.toList)) rest := by
    rw [scanFrom_string]
    simp [scanFrom, Place.step]
  have mark : "'".toList = ['\''] := rfl
  simp only [String.toList_append, mark, List.append_assoc, List.cons_append, List.nil_append]
  rw [scanFrom, Place.step, enter, if_pos rfl, escape, String.toList_ofList, List.nil_append, inside, ended]
  rfl

end CqlTable
