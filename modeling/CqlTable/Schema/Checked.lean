import CqlTable.Fault
import CqlTable.Json.Printer

/-!
# Checked schemas: table schemas of documents

A schema is accepted when its names are plain identifiers, its types are well
formed and no two column names are equal but for letter case.
-/

namespace CqlTable

/-- The types that have no parameter. -/
def plainTypes : List (String × LogicalType) :=
  [("tinyint", .integer .tinyint), ("smallint", .integer .smallint), ("int", .integer .int),
    ("bigint", .integer .bigint), ("float", .floating .float), ("double", .floating .double),
    ("text", .textual .text), ("enum", .textual .enum), ("set", .textual .set),
    ("json", .textual .json), ("date", .date), ("time", .time), ("timestamp", .timestamp),
    ("boolean", .boolean)]

/-- A logical type: its kind, and the parameter that the kind asks for. -/
def LogicalType.check : Check LogicalType := fun path j =>
  match j with
  | .object _ =>
    match j.get? "kind" with
    | some (.string kind) =>
      if kind = "decimal" then
        (Check.required j path "scale" (Check.integer (.atLeast 0) none)).map .decimal
      else if kind = "blob" then
        (Check.optional j path "length" (Check.integer (.atLeast 0) none)).map .blob
      else if kind = "other" then (Check.required j path "name" Check.nonEmptyText).map .other
      else
        match Named.get? kind plainTypes with
        | some type => .valid type
        | none => .refuse (path ++ ["kind"]) (.unknownKind LogicalType.kinds)
    | _ => .refuse (path ++ ["kind"]) (.unknownKind LogicalType.kinds)
  | j => Check.wrongKind path "object" j

/-- The words for the roles. -/
def roleChoices : List (String × Role) :=
  [("regular", .regular), ("partition_key", .partitionKey), ("clustering_key", .clusteringKey)]

/-- A column. It may hold nulls and is outside the key unless the document says
    otherwise. -/
def Column.check : Check Column := fun path j =>
  match j with
  | .object _ =>
    Checked.valid Column.mk
      |>.ap (Check.required j path "name" Check.identifier)
      |>.ap (Check.required j path "type" LogicalType.check)
      |>.ap (Check.defaulted j path "nullable" true Check.flag)
      |>.ap (Check.defaulted j path "role" .regular (Check.choice roleChoices))
  | j => Check.wrongKind path "object" j

namespace TableSchema

/-- A schema, but for the rule on equal names. -/
def checkMembers : Check TableSchema := fun path j =>
  match j with
  | .object _ =>
    Checked.valid TableSchema.mk
      |>.ap (Check.required j path "keyspace" Check.identifier)
      |>.ap (Check.required j path "table" Check.identifier)
      |>.ap (Check.required j path "columns" (Check.list Column.check))
  | j => Check.wrongKind path "object" j

/-- The column names of a document, as far as it has them. -/
def documentNames (j : Json) : List String :=
  match j.get? "columns" with
  | some (.array columns) => columns.map fun column =>
    match column.get? "name" with
    | some (.string name) => name
    | _ => ""
  | _ => []

/-- An issue for each name that equals an earlier one but for letter case. -/
def duplicateIssues (seen : List String) : Nat → List String → List Issue
  | _, [] => []
  | position, name :: rest =>
    let key := Text.lower name
    (if seen.contains key then
      [⟨["columns", Text.numeral position, "name"], .duplicateColumn name⟩] else []) ++
      duplicateIssues (key :: seen) (position + 1) rest

/-- All issues of a document. Equal names are looked for only when every other
    issue is about content. -/
def documentIssues (j : Json) : List Issue :=
  let issues := (checkMembers [] j).issues
  if issues.all fun issue => issue.problem.isContent then
    issues ++ duplicateIssues [] 0 (documentNames j)
  else issues

/-- A member of a document as it shows in a message. -/
def shownMember (j : Json) (name : String) : String :=
  match j.get? name with
  | some value => value.shown
  | none => "undefined"

/-- The schema that a document describes. -/
def ofJson (j : Json) : Except ConfigurationError TableSchema :=
  let refused := .error (.invalidSchema (shownMember j "keyspace") (shownMember j "table") (documentIssues j))
  match checkMembers [] j with
  | .valid schema => if (documentIssues j).isEmpty then .ok schema else refused
  | .invalid _ => refused

end TableSchema

end CqlTable
