import CqlTable.Config.Basic

/-!
# Connection parameters: settings in one line of text

Parameters are `key=value` pairs between semicolons, such as
`hosts=10.0.0.1,10.0.0.2;keyspace=shop;port=9042;verbose=yes`. Tokens without
an equals sign and unknown keys do not count, and the last of several values
holds.
-/

namespace CqlTable

open Text

/-- The parameters that a text sets. -/
structure ConnectionParams where
  hosts : Option (List String) := none
  keyspace : Option String := none
  table : Option String := none
  port : Option Double := none
  verbose : Option Bool := none
  deriving DecidableEq

/-- Entries between commas, without blanks around them and without empty
    ones. -/
def commaEntries (s : String) : List String :=
  ((split ',' s).map trim).filter fun entry => !entry.isEmpty

/-- A port in decimal digits. -/
def parsePort (value : String) : Except ConfigurationError Nat :=
  if isNumeral value.toList then
    let port := numeralValue value.toList
    if portRange.1 ≤ port ∧ port ≤ portRange.2 then .ok port else .error (.invalidPort value)
  else .error (.invalidPort value)

/-- The words that switch a flag on. -/
def truthyWords : List String := ["true", "1", "yes"]

/-- Key and value of a token around its first equals sign, without the blanks
    around them. -/
def keyValue? (token : List Char) : Option (String × String) :=
  match token.dropWhile (· ≠ '=') with
  | [] => none
  | _ :: value =>
    some (String.ofList (trimChars (token.takeWhile (· ≠ '='))), String.ofList (trimChars value))

namespace ConnectionParams

/-- The parameters after a key and its value. -/
def set (params : ConnectionParams) (key value : String) :
    Except ConfigurationError ConnectionParams :=
  if key = "hosts" then .ok { params with hosts := some (commaEntries value) }
  else if key = "keyspace" then .ok { params with keyspace := some value }
  else if key = "table" then .ok { params with table := some value }
  else if key = "port" then
    match parsePort value with
    | .ok port => .ok { params with port := some (Double.ofNat port) }
    | .error e => .error e
  else if key = "verbose" then
    .ok { params with verbose := some (truthyWords.contains (lower value)) }
  else .ok params

/-- The parameters after a token. -/
def setToken (params : ConnectionParams) (token : List Char) :
    Except ConfigurationError ConnectionParams :=
  match keyValue? token with
  | some (key, value) => params.set key value
  | none => .ok params

/-- The parameters after several tokens; the first bad one decides the
    error. -/
def setTokens (params : ConnectionParams) : List (List Char) → Except ConfigurationError ConnectionParams
  | [] => .ok params
  | token :: rest =>
    match params.setToken token with
    | .ok params => params.setTokens rest
    | .error e => .error e

/-- The parameters that a text sets. -/
def parse (text : String) : Except ConfigurationError ConnectionParams :=
  setTokens {} (splitChars ';' text.toList)

/-- A text that is given and not empty. -/
def nonEmpty (s : Option String) : Option String := s.filter fun s => !s.isEmpty

/-- The settings that parameters override. Lists without hosts and empty names
    override nothing. -/
def overrides (params : ConnectionParams) : List (String × Json) :=
  (match params.hosts with
    | some (host :: rest) => [("hosts", .ofTexts (host :: rest))]
    | _ => []) ++
  Config.optionalMember "keyspace" (nonEmpty params.keyspace) ++
  Config.optionalMember "table" (nonEmpty params.table) ++
  (match params.port with
    | some port => [("port", .number port)]
    | none => []) ++
  (match params.verbose with
    | some verbose => [("verbose", .boolean verbose)]
    | none => [])

end ConnectionParams

/-- The settings with parameters in their place; the result is checked as a
    whole. -/
def Config.applyParams (c : Config) (params : ConnectionParams) : Except ConfigurationError Config :=
  Config.ofJson "connection parameters"
    (.object (params.overrides.foldl (fun members entry => Named.put entry.1 entry.2 members) c.members))

/-- A keyspace and a table of it. -/
structure TableIdentity where
  keyspace : String
  table : String
  deriving DecidableEq

/-- The table of a path: named by the parameters of a comment, else by the
    settings, else by the last segment of the path. -/
def Config.identity (c : Config) (path : String) (comment : Option String) :
    Except ConfigurationError TableIdentity :=
  match ConnectionParams.parse (comment.getD "") with
  | .error e => .error e
  | .ok params =>
    let segments := (split '/' path).filter fun segment => !segment.isEmpty
    let table := (ConnectionParams.nonEmpty params.table).or
      ((ConnectionParams.nonEmpty c.table).or segments.getLast?)
    .ok ⟨(ConnectionParams.nonEmpty params.keyspace).getD c.keyspace, table.getD path⟩

end CqlTable
