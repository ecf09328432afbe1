import CqlTable.Calendar.Instant
import CqlTable.Fault
import CqlTable.Log

/-!
# Settings: what a connection and a table are configured with

Every setting has a default or may be absent. Members of a document that are no
settings do not count.
-/

namespace CqlTable

/-- The settings. -/
structure Config where
  hosts : List String
  port : Nat
  keyspace : String
  table : Option String
  verbose : Bool
  allowFiltering : Bool
  replicationFactor : Nat
  localDataCenter : String
  username : Option String
  password : Option String
  connectTimeoutMs : Nat
  requestTimeoutMs : Nat
  timestampZone : Calendar.Zone
  strictDecoding : Bool
  rejectUnsupportedTypes : Bool
  deriving DecidableEq

/-- The words for the zones. -/
def zoneChoices : List (String × Calendar.Zone) := [("local", .local), ("utc", .utc)]

/-- Replicas of a keyspace unless the settings ask for another number. -/
def defaultReplicas : Nat := 1

namespace Config

/-- The names of the settings. -/
def names : List String :=
  ["hosts", "port", "keyspace", "table", "verbose", "allowFiltering", "replicationFactor",
    "localDataCenter", "username", "password", "connectTimeoutMs", "requestTimeoutMs",
    "timestampZone", "strictDecoding", "rejectUnsupportedTypes"]

/-- The settings of an object. -/
def checkMembers (path : List String) (j : Json) : Checked Config :=
  Checked.valid Config.mk
    |>.ap (Check.defaulted j path "hosts" ["127.0.0.1"] (Check.nonEmptyList Check.nonEmptyText))
    |>.ap (Check.defaulted j path "port" 9042
      (Check.integer (.atLeast portRange.1) (some portRange.2)))
    |>.ap (Check.defaulted j path "keyspace" "cqlbridge" Check.identifier)
    |>.ap (Check.optional j path "table" Check.identifier)
    |>.ap (Check.defaulted j path "verbose" false Check.flag)
    |>.ap (Check.defaulted j path "allowFiltering" true Check.flag)
    |>.ap (Check.defaulted j path "replicationFactor" defaultReplicas (Check.integer (.atLeast 1) none))
    |>.ap (Check.defaulted j path "localDataCenter" "datacenter1" Check.nonEmptyText)
    |>.ap (Check.optional j path "username" Check.anyText)
    |>.ap (Check.optional j path "password" Check.anyText)
    |>.ap (Check.defaulted j path "connectTimeoutMs" 10000 (Check.integer .positive none))
    |>.ap (Check.defaulted j path "requestTimeoutMs" 10000 (Check.integer .positive none))
    |>.ap (Check.defaulted j path "timestampZone" .local (Check.choice zoneChoices))
    |>.ap (Check.defaulted j path "strictDecoding" false Check.flag)
    |>.ap (Check.defaulted j path "rejectUnsupportedTypes" false Check.flag)

/-- Settings. -/
def check : Check Config := fun path j =>
  match j with
  | .object _ => checkMembers path j
  | j => Check.wrongKind path "object" j

/-- The settings that a document describes. Errors name the source of the
    document. -/
def ofJson (source : String) (j : Json) : Except ConfigurationError Config :=
  match check [] j with
  | .valid config => .ok config
  | .invalid issues => .error (.invalidSettings source issues)

/-- The source of settings that are given directly. -/
def givenSource : String := "configuration"

/-- A member that may be absent. -/
def optionalMember (name : String) : Option String → List (String × Json)
  | some s => [(name, .string s)]
  | none => []

/-- The word for a zone. -/
def zoneName : Calendar.Zone → String
  | .local => "local"
  | .utc => "utc"

/-- The settings as a document. -/
def members (c : Config) : List (String × Json) :=
  [("hosts", .ofTexts c.hosts), ("port", .ofNat c.port), ("keyspace", .string c.keyspace)] ++
  optionalMember "table" c.table ++
  [("verbose", .boolean c.verbose), ("allowFiltering", .boolean c.allowFiltering),
    ("replicationFactor", .ofNat c.replicationFactor),
    ("localDataCenter", .string c.localDataCenter)] ++
  optionalMember "username" c.username ++ optionalMember "password" c.password ++
  [("connectTimeoutMs", .ofNat c.connectTimeoutMs), ("requestTimeoutMs", .ofNat c.requestTimeoutMs),
    ("timestampZone", .string (zoneName c.timestampZone)),
    ("strictDecoding", .boolean c.strictDecoding),
    ("rejectUnsupportedTypes", .boolean c.rejectUnsupportedTypes)]

end Config

/-- What a client of the database is made with. -/
structure ClientOptions where
  contactPoints : List String
  localDataCenter : String
  port : Nat
  maxVersion : Nat
  connectTimeout : Nat
  readTimeout : Nat
  credentials : Option (String × String)
  deriving DecidableEq

/-- The newest version of the protocol that clients speak. -/
def protocolVersion : Nat := 4

/-- The options of the client of a configuration. Credentials need both a user
    and a password. -/
def Config.clientOptions (c : Config) : ClientOptions where
  contactPoints := c.hosts
  localDataCenter := c.localDataCenter
  port := c.port
  maxVersion := protocolVersion
  connectTimeout := c.connectTimeoutMs
  readTimeout := c.requestTimeoutMs
  credentials :=
    match c.username, c.password with
    | some user, some password => if user.isEmpty ∨ password.isEmpty then none else some (user, password)
    | _, _ => none

/-- How clients encode values: missing ones as null, and integers of any size
    as integers of the database. -/
def valueEncoding : List (String × Json) :=
  [("useUndefinedAsUnset", .boolean false), ("useBigIntAsLong", .boolean true),
    ("useBigIntAsVarint", .boolean true)]

/-- The options as a document. -/
def ClientOptions.members (o : ClientOptions) : List (String × Json) :=
  [("contactPoints", .ofTexts o.contactPoints), ("localDataCenter", .string o.localDataCenter),
    ("protocolOptions", .object [("port", .ofNat o.port), ("maxVersion", .ofNat o.maxVersion)]),
    ("socketOptions",
      .object [("connectTimeout", .ofNat o.connectTimeout), ("readTimeout", .ofNat o.readTimeout)]),
    ("encoding", .object valueEncoding)] ++
  match o.credentials with
  | some (user, password) =>
    [("credentials", .object [("username", .string user), ("password", .string password)])]
  | none => []

end CqlTable
