import CqlTable.Validation
import CqlTable.Text.Units

/-!
# Faults: why an operation is refused

Every refusal is a cause with its data; its wording is made in one place.
-/

namespace CqlTable

/-- Why a value cannot be converted. -/
inductive Reason
  | outOfRange
  | malformed
  | unencodable
  deriving DecidableEq

/-- The word for a reason. -/
def Reason.name : Reason → String
  | outOfRange => "out_of_range"
  | malformed => "malformed"
  | unencodable => "unencodable"

/-- What a value was to be converted to. -/
inductive Target
  | type (type : LogicalType)
  | scanPosition
  deriving DecidableEq

/-- How a target shows in messages. -/
def Target.label : Target → String
  | type t => t.label
  | scanPosition => "scan_position"

/-- A value that cannot be converted. -/
structure ConversionError where
  reason : Reason
  target : Target
  input : String
  column : Option String := none
  deriving DecidableEq

namespace ConversionError

/-- The same error for a value of a column. -/
def forColumn (e : ConversionError) (column : String) : ConversionError :=
  { e with column := some column }

/-- The wording of an error. Long inputs are cut. -/
def message (e : ConversionError) : String :=
  let shown := Text.shorten 64 e.input
  let target := match e.column with
    | some column => "column \"" ++ column ++ "\" (" ++ e.target.label ++ ")"
    | none => e.target.label
  match e.reason with
  | .outOfRange => "Value " ++ shown ++ " is out of range for " ++ target
  | .malformed => "Cannot parse \"" ++ shown ++ "\" as " ++ target
  | .unencodable => "Cannot encode " ++ shown ++ " as " ++ target

end ConversionError

/-- An operation that tables of this kind do not have, or not in their present
    state. -/
inductive Unsupported
  | createTable (column : String)
  | update (table : String)
  | delete (table : String)
  | position
  | renameTable
  | indexPrev
  | indexLast
  deriving DecidableEq

namespace Unsupported

/-- The word for an operation. -/
def operation : Unsupported → String
  | createTable _ => "create_table"
  | update _ => "update"
  | delete _ => "delete"
  | position => "position"
  | renameTable => "rename_table"
  | indexPrev => "index_prev"
  | indexLast => "index_last"

/-- The wording of a refusal. -/
def message : Unsupported → String
  | createTable column => "Column \"" ++ column ++ "\" has a type with no CQL mapping"
  | update table => "Table " ++ table ++ " has no key columns"
  | delete table => "Table " ++ table ++ " has no key columns"
  | position => "No row has been read from the current result set"
  | unsupported => "Operation \"" ++ unsupported.operation ++ "\" is not supported by CQL tables"

end Unsupported

/-- The name of the variable that lists configuration files. -/
def pathsVariable : String := "CQLBRIDGE_CONFIG"

/-- The least and the greatest port. -/
def portRange : Nat × Nat := (1, 65535)

/-- A schema, a setting or a name that does not hold. -/
inductive ConfigurationError
  | invalidSchema (keyspace table : String) (issues : List Issue)
  | invalidSettings (source : String) (issues : List Issue)
  | invalidPort (text : String)
  | unknownColumn (column table : String)
  | noPaths
  | noFile (paths : List String)
  | unreadableFile (path : String)
  | unparsableFile (path : String)
  | fileWithoutObject (path : String)

namespace ConfigurationError

/-- The texts of the issues behind an error. -/
def issues : ConfigurationError → List String
  | invalidSchema _ _ issues => issues.map Issue.text
  | invalidSettings _ issues => issues.map Issue.text
  | _ => []

/-- The wording of an error. -/
def message : ConfigurationError → String
  | invalidSchema keyspace table _ => "Invalid table schema for \"" ++ keyspace ++ "." ++ table ++ "\""
  | invalidSettings source issues =>
    "Invalid " ++ source ++ ": " ++ Text.join "; " (issues.map Issue.text)
  | invalidPort text =>
    "Invalid port \"" ++ text ++ "\": expected an integer between " ++ Text.numeral portRange.1 ++
      " and " ++ Text.numeral portRange.2
  | unknownColumn column table => "Unknown column \"" ++ column ++ "\" in " ++ table
  | noPaths => pathsVariable ++ " must be set to at least one config file path"
  | noFile paths => "No config file found in: " ++ Text.join ", " paths
  | unreadableFile path => "Failed to read config file " ++ path ++ ": <read>"
  | unparsableFile path => "Failed to read config file " ++ path ++ ": <syntax>"
  | fileWithoutObject path => "Config file " ++ path ++ " must contain a JSON object"

end ConfigurationError

/-- What the client of the database says went wrong. -/
inductive ClientFailure
  | noHost (message : String)
  | authentication (message : String)
  | response (message : String)
  | error (message : String)
  | bare (message : String)
  deriving DecidableEq

namespace ClientFailure

/-- The wording of a failure. -/
def message : ClientFailure → String
  | noHost message | authentication message | response message | error message | bare message => message

/-- Whether a failure means that the connection is gone. -/
def isConnectionLoss : ClientFailure → Bool
  | noHost _ | authentication _ => true
  | _ => false

end ClientFailure

/-- Why an operation failed. -/
inductive Fault
  | conversion (error : ConversionError)
  | unsupported (operation : Unsupported)
  | configuration (error : ConfigurationError)
  | connectionFailed (hosts : List String) (port : Nat) (cause : ClientFailure)
  | notConnected
  | executionFailed (statement : String) (cause : ClientFailure)
  | client (failure : ClientFailure)

namespace Fault

/-- The wording of a fault. -/
def message : Fault → String
  | conversion error => error.message
  | unsupported operation => operation.message
  | configuration error => error.message
  | connectionFailed hosts port cause =>
    "Unable to connect to " ++ Text.join "," hosts ++ ":" ++ Text.numeral port ++ ": " ++ cause.message
  | notConnected => "Connection is not established. Call connect() first."
  | executionFailed _ cause => "CQL execution failed: " ++ cause.message
  | client failure => failure.message

/-- The code of a fault; failures of the client that pass through have none. -/
def code? : Fault → Option String
  | conversion _ => some "type_conversion_failed"
  | unsupported _ => some "unsupported_operation"
  | configuration _ => some "invalid_configuration"
  | connectionFailed .. => some "connection_failed"
  | notConnected => some "not_connected"
  | executionFailed .. => some "execution_failed"
  | client _ => none

end Fault

end CqlTable
