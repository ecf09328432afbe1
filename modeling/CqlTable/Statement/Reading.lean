import CqlTable.Text.Blank
import CqlTable.Text.LetterCase

/-!
# Reading statements: kind and table of any text

The log shows the kind of a statement and the table that it names. Both are
read off the text by keywords, in either letter case.
-/

namespace CqlTable

open Text

/-- The kind of a statement; a query is anything else. -/
inductive StatementKind
  | select
  | insert
  | update
  | delete
  | create
  | drop
  | truncate
  | use
  | query
  deriving DecidableEq

namespace StatementKind

/-- The word that a statement of a kind begins with. -/
def word : StatementKind → String
  | select => "SELECT"
  | insert => "INSERT"
  | update => "UPDATE"
  | delete => "DELETE"
  | create => "CREATE"
  | drop => "DROP"
  | truncate => "TRUNCATE"
  | use => "USE"
  | query => "QUERY"

/-- The kinds with a word of their own. -/
def all : List StatementKind := [select, insert, update, delete, create, drop, truncate, use]

/-- The kind of a text: that of the word which it begins with after blanks. -/
def ofText (cql : String) : StatementKind :=
  let cs := trimChars cql.toList
  (all.find? fun kind => upperStartsWith kind.word cs).getD query

end StatementKind

/-! ## The table of a statement -/

/-- A letter, a digit or an underscore of ASCII. -/
def isWordChar (c : Char) : Bool :=
  ('A' ≤ c && c ≤ 'Z') || ('a' ≤ c && c ≤ 'z') || ('0' ≤ c && c ≤ '9') || c == '_'

/-- What follows a word of ASCII capitals, in either letter case. -/
def afterKeyword? : List Char → List Char → Option (List Char)
  | [], cs => some cs
  | _ :: _, [] => none
  | w :: word, c :: rest => if upperAscii c = w then afterKeyword? word rest else none

/-- What follows a keyword and the blanks after it, of which there is at least
    one. -/
def afterKeywordGap? (word : String) (cs : List Char) : Option (List Char) :=
  match afterKeyword? word.toList cs with
  | some (c :: rest) => if isBlank c then some (rest.dropWhile isBlank) else none
  | _ => none

/-- What follows several keywords with blanks after each. -/
def afterPhrase? : List String → List Char → Option (List Char)
  | [], cs => some cs
  | word :: words, cs => (afterKeywordGap? word cs).bind (afterPhrase? words)

/-- The name at the front: word characters, with a second part after a dot
    where `dotted`. -/
def nameAt? (dotted : Bool) (cs : List Char) : Option (List Char) :=
  match cs.takeWhile isWordChar with
  | [] => none
  | first =>
    match cs.dropWhile isWordChar with
    | '.' :: rest =>
      match rest.takeWhile isWordChar with
      | [] => some first
      | second => some (if dotted then first ++ '.' :: second else first)
    | _ => some first

/-- Where a kind of statement names its table: after one of `openers`, which is
    first in the text or the start of a word anywhere, and after a phrase that
    may be left out. -/
structure TableMark where
  first : Bool
  openers : List String
  phrase : List String
  dotted : Bool

/-- The name after an opener at the front. -/
def TableMark.nameHere? (mark : TableMark) (cs : List Char) : Option (List Char) :=
  (mark.openers.findSome? fun opener => afterKeywordGap? opener cs).bind fun rest =>
    ((afterPhrase? mark.phrase rest).bind (nameAt? mark.dotted)).or (nameAt? mark.dotted rest)

/-- The name after the first opener that begins a word; `inWord` tells whether
    the character before is in a word. -/
def TableMark.search? (mark : TableMark) (inWord : Bool) : List Char → Option (List Char)
  | [] => none
  | c :: rest =>
    match if inWord then none else mark.nameHere? (c :: rest) with
    | some name => some name
    | none => mark.search? (isWordChar c) rest

/-- The mark of each kind of statement. -/
def StatementKind.mark? : StatementKind → Option TableMark
  | select => some ⟨false, ["FROM"], [], true⟩
  | insert => some ⟨false, ["INTO"], [], true⟩
  | update => some ⟨true, ["UPDATE"], [], true⟩
  | delete => some ⟨false, ["FROM"], [], true⟩
  | create => some ⟨false, ["TABLE", "KEYSPACE"], ["IF", "NOT", "EXISTS"], true⟩
  | drop => some ⟨false, ["TABLE", "KEYSPACE"], ["IF", "EXISTS"], true⟩
  | truncate => some ⟨true, ["TRUNCATE"], ["TABLE"], true⟩
  | use => some ⟨true, ["USE"], [], false⟩
  | query => none

/-- The name that a text has at the mark of its kind. -/
def tableName? (cql : String) : Option (List Char) :=
  (StatementKind.ofText cql).mark?.bind fun mark =>
    if mark.first then mark.nameHere? (cql.toList.dropWhile isBlank)
    else mark.search? false cql.toList

/-- The table that a statement names. -/
def tableName (cql : String) : String :=
  match tableName? cql with
  | some name => String.ofList name
  | none => "unknown"

/-! ## A statement on one line -/

/-- Runs of blanks as single spaces; `after` tells whether a blank came just
    before. -/
def collapseBlanks (after : Bool) : List Char → List Char
  | [] => []
  | c :: rest =>
    if isBlank c then (if after then collapseBlanks true rest else ' ' :: collapseBlanks true rest)
    else c :: collapseBlanks false rest

/-- A text without the semicolon that may end it. -/
def dropSemicolon (cs : List Char) : List Char :=
  match (trimEndChars cs).reverse with
  | ';' :: rest => rest.reverse
  | _ => cs

/-- A statement on one line: single spaces, and no semicolon at the end. -/
def oneLine (cql : String) : String :=
  String.ofList (trimChars (dropSemicolon (collapseBlanks false cql.toList)))

end CqlTable
