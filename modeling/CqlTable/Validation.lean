import CqlTable.Json.Basic
import CqlTable.Schema.Table
import CqlTable.Text.Pieces

/-!
# Validation: documents checked member by member

A check gives a value or every issue that it found, in the order in which the
members are declared. An issue is a path and a problem.
-/

namespace CqlTable

/-- A lower bound of a number. -/
inductive LowerBound
  | atLeast (least : Int)
  | positive

/-- What is wrong at one place of a document. -/
inductive Problem
  | required
  | wrongKind (expected received : String)
  | unknownChoice (choices : List String) (received : String)
  | unknownKind (kinds : List String)
  | notIdentifier
  | emptyText
  | emptyList
  | notInteger
  | tooSmall (bound : LowerBound)
  | tooGreat (greatest : Int)
  | duplicateColumn (name : String)

/-- Words to choose from, each between quotes. -/
def quotedChoices (choices : List String) : String :=
  Text.join " | " (choices.map fun choice => "'" ++ choice ++ "'")

namespace Problem

/-- The wording of a problem. -/
def message : Problem → String
  | required => "Required"
  | wrongKind expected received => "Expected " ++ expected ++ ", received " ++ received
  | unknownChoice choices received =>
    "Invalid enum value. Expected " ++ quotedChoices choices ++ ", received '" ++ received ++ "'"
  | unknownKind kinds => "Invalid discriminator value. Expected " ++ quotedChoices kinds
  | notIdentifier => "must be a plain CQL identifier"
  | emptyText => "String must contain at least 1 character(s)"
  | emptyList => "Array must contain at least 1 element(s)"
  | notInteger => "Expected integer, received float"
  | tooSmall (.atLeast least) => "Number must be greater than or equal to " ++ Text.integer least
  | tooSmall .positive => "Number must be greater than 0"
  | tooGreat greatest => "Number must be less than or equal to " ++ Text.integer greatest
  | duplicateColumn name => "Duplicate column name \"" ++ name ++ "\""

/-- Whether a problem is with the content of a value of the right kind. -/
def isContent : Problem → Bool
  | required | wrongKind .. | unknownChoice .. | unknownKind .. => false
  | _ => true

end Problem

/-- A problem and where it is. -/
structure Issue where
  path : List String
  problem : Problem

/-- The text of an issue. -/
def Issue.text (issue : Issue) : String :=
  (if issue.path.isEmpty then "(root)" else Text.join "." issue.path) ++ ": " ++ issue.problem.message

/-- A value, or all issues. -/
inductive Checked (α : Type)
  | valid (value : α)
  | invalid (issues : List Issue)

namespace Checked

variable {α β : Type}

/-- The issues of a check. -/
def issues : Checked α → List Issue
  | valid _ => []
  | invalid issues => issues

/-- The value changed by a function. -/
def map (f : α → β) : Checked α → Checked β
  | valid a => valid (f a)
  | invalid issues => invalid issues

/-- Both checks; the issues of the first come first. -/
def ap (f : Checked (α → β)) (a : Checked α) : Checked β :=
  match f, a with
  | valid f, valid a => valid (f a)
  | f, a => invalid (f.issues ++ a.issues)

/-- A check that fails with one problem. -/
def refuse (path : List String) (problem : Problem) : Checked α := invalid [⟨path, problem⟩]

end Checked

/-- A check of a document at a path. -/
abbrev Check (α : Type) := List String → Json → Checked α

namespace Check

variable {α : Type}

/-- A document of the wrong kind. -/
def wrongKind (path : List String) (expected : String) (j : Json) : Checked α :=
  .refuse path (.wrongKind expected j.kind)

/-- A value unless it has problems. -/
def accept (path : List String) (problems : List Problem) (value : α) : Checked α :=
  if problems.isEmpty then .valid value else .invalid (problems.map fun problem => ⟨path, problem⟩)

/-- A text without problems. -/
def text (problems : String → List Problem) : Check String := fun path j =>
  match j with
  | .string s => accept path (problems s) s
  | j => wrongKind path "string" j

/-- Any text. -/
def anyText : Check String := text fun _ => []

/-- A text of at least one character. -/
def nonEmptyText : Check String := text fun s => if s.isEmpty then [.emptyText] else []

/-- A plain identifier. -/
def identifier : Check String := text fun s => if isIdentifier s then [] else [.notIdentifier]

/-- A truth value. -/
def flag : Check Bool := fun path j =>
  match j with
  | .boolean b => .valid b
  | j => wrongKind path "boolean" j

/-- What is wrong with a number that has to be an integer between bounds. -/
def numberProblems (lower : LowerBound) (greatest : Option Int) (d : Double) : List Problem :=
  (if d.isInteger then [] else [.notInteger]) ++
  (match lower with
    | .atLeast least => if d.below least then [.tooSmall lower] else []
    | .positive => if d.above 0 then [] else [.tooSmall lower]) ++
  (match greatest with
    | some greatest => if d.above greatest then [.tooGreat greatest] else []
    | none => [])

/-- An integer between bounds. -/
def integer (lower : LowerBound) (greatest : Option Int) : Check Nat := fun path j =>
  match j with
  | .number d => accept path (numberProblems lower greatest d) (d.toInt?.getD 0).toNat
  | j => wrongKind path "number" j

/-- One of several words, each with its value. -/
def choice (choices : List (String × α)) : Check α := fun path j =>
  match j with
  | .string s =>
    match Named.get? s choices with
    | some a => .valid a
    | none => .refuse path (.unknownChoice (choices.map (·.1)) s)
  | j => wrongKind path (quotedChoices (choices.map (·.1))) j

/-- Items, each checked at its position. -/
def items (item : Check α) (path : List String) : Nat → List Json → Checked (List α)
  | _, [] => .valid []
  | position, j :: rest =>
    ((item (path ++ [Text.numeral position]) j).map List.cons).ap (items item path (position + 1) rest)

/-- An array of items. -/
def list (item : Check α) : Check (List α) := fun path j =>
  match j with
  | .array js => items item path 0 js
  | j => wrongKind path "array" j

/-- An array of at least one item. The lack of items comes before the issues
    of the items. -/
def nonEmptyList (item : Check α) : Check (List α) := fun path j =>
  match j with
  | .array [] => .refuse path .emptyList
  | j => list item path j

/-- The member of a name, with what holds when it is absent. -/
def member (j : Json) (path : List String) (name : String) (absent : List String → Checked α)
    (check : Check α) : Checked α :=
  match j.get? name with
  | some value => check (path ++ [name]) value
  | none => absent (path ++ [name])

/-- A member that has to be there. -/
def required (j : Json) (path : List String) (name : String) (check : Check α) : Checked α :=
  member j path name (fun path => .refuse path .required) check

/-- A member with a value for when it is absent. -/
def defaulted (j : Json) (path : List String) (name : String) (value : α) (check : Check α) :
    Checked α :=
  member j path name (fun _ => .valid value) check

/-- A member that may be absent. -/
def optional (j : Json) (path : List String) (name : String) (check : Check α) :
    Checked (Option α) :=
  member j path name (fun _ => .valid none) fun path j => (check path j).map some

end Check

end CqlTable
