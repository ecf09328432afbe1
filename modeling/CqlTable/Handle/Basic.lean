import CqlTable.Handle.Cursor
import CqlTable.Result.Position
import CqlTable.Session.Basic
import CqlTable.Statement.Building

/-!
# Table handles: writing and reading the rows of one table

A handle connects when it has a statement to send and no client. Every query
replaces the rows that the handle retains, so references to earlier rows stand
for rows of the new result from then on.
-/

namespace CqlTable

/-- A handle of a table: its session, and the cursor over the rows of its last
    query. -/
structure TableHandle (W : Type) where
  session : Session W
  cursor : Cursor

/-- How values and types become statements under a configuration. -/
def Config.dialect (config : Config) : Dialect :=
  ⟨config.timestampZone, config.rejectUnsupportedTypes⟩

namespace TableHandle

variable {W α : Type}

/-- A handle before its first request. -/
def start (world : W) : TableHandle W := ⟨Session.start world, .released⟩

/-- An operation of the session of a handle. -/
def onSession (operation : Operation (Session W) α) : Operation (TableHandle W) α :=
  Operation.within session (fun session handle => { handle with session := session }) operation

/-- The cursor of a handle changed. -/
def moveCursor (f : Cursor → Cursor) : Operation (TableHandle W) Unit :=
  Operation.change fun handle => { handle with cursor := f handle.cursor }

/-- Who writes the records of a handle. -/
def writer (schema : TableSchema) : List (String × String) :=
  [("module", "table"), ("table", schema.qualifiedName)]

/-- The record of a table that was created. -/
def createdRecord (schema : TableSchema) : LogRecord :=
  ⟨.info, writer schema, some [("keyspace", .string schema.keyspace)], "Created table"⟩

/-- The record of a cell that did not decode. -/
def nullRecord (schema : TableSchema) (error : ConversionError) : LogRecord :=
  ⟨.warn, writer schema,
    some ([("error", .string error.message)] ++
      (error.column.map fun column => ("column", Json.string column)).toList ++
      [("reason", .string error.reason.name)]),
    "Storing NULL for cell"⟩

/-! ## Reading -/

variable (config : Config) (schema : TableSchema)

/-- A row that was read. Where cells did not decode, strict reading fails with
    the error of the first, and lenient reading warns about each. -/
def deliver (read : MaterializedRow) : Operation (TableHandle W) DecodedRow :=
  match read.errors with
  | [] => return read.row
  | error :: rest =>
    if config.strictDecoding then Operation.fail (.conversion error)
    else do
      Operation.records ((error :: rest).map (nullRecord schema))
      return read.row

/-- The row at an index of the retained result, if there is one. The cursor
    moves behind it even when it cannot be delivered. -/
def readAt (index : Nat) : Operation (TableHandle W) (Option DecodedRow) := do
  match (← Operation.state).cursor.row? index with
  | none => return none
  | some (columnNames, cells) =>
    moveCursor (Cursor.past index)
    return some (← deliver config schema (materialize columnNames cells schema))

/-- The next row of the retained result, if there is one. -/
def readNext : Operation (TableHandle W) (Option DecodedRow) := do
  readAt config schema (← Operation.state).cursor.next

/-- The first row of the retained result, if there is one. -/
def readFirst : Operation (TableHandle W) (Option DecodedRow) := do
  moveCursor Cursor.atFirst
  readNext config schema

/-- The row that a reference stands for, if the retained result has it. -/
def readReferenced (ref : Bytes) : Operation (TableHandle W) (Option DecodedRow) := do
  let index ← Operation.ofExcept (Conversion.orFault (decodePosition ref))
  readAt config schema index

/-- The reference to the row that was read last. -/
def reference : Operation (TableHandle W) Bytes := do
  match (← Operation.state).cursor.last with
  | none => Operation.fail (.unsupported .position)
  | some index => Operation.ofExcept (Conversion.orFault (encodePosition (Double.ofNat index)))

/-! ## Statements -/

variable (cluster : Cluster W)

/-- A statement sent to the cluster, over a new client if there is none. -/
def run (statement : Statement) : Operation (TableHandle W) QueryResult :=
  onSession do
    Session.connect cluster config
    Session.execute cluster config statement.text

/-- A statement that may be refused before anything is sent. -/
def runBuilt (statement : Except Fault Statement) : Operation (TableHandle W) QueryResult := do
  run config cluster (← Operation.ofExcept statement)

/-- A query whose rows the handle retains. -/
def query (condition : String) : Operation (TableHandle W) Unit := do
  let result ← run config cluster (Statement.selectFrom schema condition config.allowFiltering)
  moveCursor fun _ => Cursor.ofResult (some result)

/-- A statement after which no rows are retained. -/
def runReleasing (statement : Statement) : Operation (TableHandle W) Unit := do
  let _ ← run config cluster statement
  moveCursor fun _ => Cursor.released

/-- The keyspace and the table created. -/
def create : Operation (TableHandle W) Unit := do
  onSession do
    Session.connect cluster config
    let _ ← Session.execute cluster config
      (Statement.createKeyspace schema.keyspace (Double.ofNat config.replicationFactor)).text
    Session.useKeyspace cluster config schema.keyspace
  let statement ← Operation.ofExcept (config.dialect.createTable schema)
  let _ ← onSession (Session.execute cluster config statement.text)
  Operation.record (createdRecord schema)

/-- All rows queried, or the rows of the last query from the start again. -/
def startScan (fresh : Bool) : Operation (TableHandle W) Unit :=
  if fresh then query config schema cluster "" else moveCursor Cursor.rewound

/-- The rows with the given leading key parts queried, and the first of them. -/
def lookUp (parts : List Value) (map : Option Double) :
    Operation (TableHandle W) (Option DecodedRow) := do
  let condition ← Operation.ofExcept (config.dialect.keyCondition schema parts map)
  query config schema cluster condition
  readNext config schema

end TableHandle

end CqlTable
