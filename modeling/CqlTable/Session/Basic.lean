import CqlTable.Config.Basic
import CqlTable.Session.Cluster
import CqlTable.Session.Operation
import CqlTable.Statement.Basic
import CqlTable.Statement.Logged

/-!
# Sessions: one client at a time

A session has at most one client. A client that reports the loss of its
connection is shut down and dropped; the next `connect` makes a new one, which
enters the keyspace that the session was in.
-/

namespace CqlTable

/-- A session: its client, how many clients were made, the keyspace that it is
    in, and the world of the cluster. -/
structure Session (W : Type) where
  client : Option Nat
  made : Nat
  keyspace : Option String
  world : W

namespace Session

variable {W : Type}

/-- A session before its first client. -/
def start (world : W) : Session W := ⟨none, 0, none, world⟩

/-- Whether a session has a client. -/
def isConnected (session : Session W) : Bool := session.client.isSome

/-- The session with a client, or without one. -/
def withClient (client : Option Nat) (session : Session W) : Session W :=
  { session with client := client }

/-- The session in a keyspace. -/
def inKeyspace (keyspace : String) (session : Session W) : Session W :=
  { session with keyspace := some keyspace }

/-- Who writes the records of a session. -/
def writer : List (String × String) := [("module", "cassandra")]

/-- The hosts and the port of a configuration, as data of a record. -/
def address (config : Config) : List (String × Json) :=
  [("hosts", .ofTexts config.hosts), ("port", .ofNat config.port)]

/-! ## Records -/

/-- The record of a client that connected. -/
def connectedRecord (config : Config) : LogRecord :=
  ⟨.debug, writer, some (address config), "Connected to cluster"⟩

/-- The record of a client that did not connect. -/
def connectFailedRecord (config : Config) (failure : ClientFailure) : LogRecord :=
  ⟨.error, writer, some (("error", .string failure.message) :: address config),
    "Failed to connect to cluster"⟩

/-- The record of a statement that failed. -/
def statementFailedRecord (cql : String) (failure : ClientFailure) : LogRecord :=
  ⟨.warn, writer,
    some [("error", .string failure.message), ("query", .string cql),
      ("queryType", .string (StatementKind.ofText cql).word), ("table", .string (tableName cql))],
    "CQL statement failed"⟩

/-- The record of a broken client that did not shut down. -/
def discardFailedRecord (failure : ClientFailure) : LogRecord :=
  ⟨.debug, writer, some [("error", .string failure.message)], "Failed to close broken connection"⟩

/-- The record of a client that shut down. -/
def closedRecord : LogRecord := ⟨.debug, writer, none, "Connection closed"⟩

/-! ## Calls of clients -/

variable (cluster : Cluster W)

/-- A new client, with its number and how it failed to connect. -/
def makeClient : Operation (Session W) (Nat × Option ClientFailure) := fun session =>
  let (world, failure) := cluster.connect session.made session.world
  ⟨.ok (session.made, failure), { session with made := session.made + 1, world := world },
    [.connect session.made failure], []⟩

/-- How an answer failed. -/
def failureOf : Except ClientFailure Answer → Option ClientFailure
  | .ok _ => none
  | .error failure => some failure

/-- A statement given to a client. -/
def send (client : Nat) (cql : String) : Operation (Session W) (Except ClientFailure Answer) :=
  fun session =>
    let (world, answer) := cluster.execute client cql session.world
    ⟨.ok answer, { session with world := world }, [.execute client cql (failureOf answer)], []⟩

/-- A client shut down, with how that failed. -/
def stop (client : Nat) : Operation (Session W) (Option ClientFailure) := fun session =>
  let (world, failure) := cluster.shutdown client session.world
  ⟨.ok failure, { session with world := world }, [.shutdown client failure], []⟩

/-- The time. -/
def time : Operation (Session W) Double := do
  let session ← Operation.state
  return cluster.clock session.world

/-! ## Operations of a session -/

/-- A broken client dropped. That it does not shut down is no fault. -/
def discard (client : Nat) : Operation (Session W) Unit := do
  Operation.change (withClient none)
  match ← stop cluster client with
  | none => return ()
  | some failure => Operation.record (discardFailedRecord failure)

variable (config : Config)

/-- The end of a statement that failed: the client is dropped if its connection
    is lost. -/
def failed {α : Type} (client : Nat) (cql : String) (failure : ClientFailure) : Operation (Session W) α := do
  Operation.record (statementFailedRecord cql failure)
  if failure.isConnectionLoss then
    discard cluster client
    Operation.fail (.connectionFailed config.hosts config.port failure)
  else
    Operation.fail (.executionFailed cql failure)

/-- The end of a statement that was answered after `ms` milliseconds. -/
def answered (cql : String) (ms : Double) (result : QueryResult) : Operation (Session W) QueryResult := do
  if config.verbose then
    Operation.record (loggedStatement writer cql ms (Double.ofNat result.rows.length))
  return result

/-- A statement executed by a client. -/
def executeOn (client : Nat) (cql : String) : Operation (Session W) QueryResult := do
  let before ← time cluster
  match ← send cluster client cql with
  | .error failure => failed cluster config client cql failure
  | .ok answer =>
    let after ← time cluster
    answered config cql (after.sub before) answer.result

/-- A statement executed by the client of the session. -/
def execute (cql : String) : Operation (Session W) QueryResult := do
  match (← Operation.state).client with
  | none => Operation.fail .notConnected
  | some client => executeOn cluster config client cql

/-- The keyspace of the session entered again, unless it has no name. -/
def restoreKeyspace : Operation (Session W) Unit := do
  match (← Operation.state).keyspace with
  | none => return ()
  | some keyspace =>
    if keyspace.isEmpty then return ()
    else
      let _ ← execute cluster config (Statement.useKeyspace keyspace).text
      return ()

/-- A new client for the session. -/
def reconnect : Operation (Session W) Unit := do
  match ← makeClient cluster with
  | (_, some failure) =>
    Operation.record (connectFailedRecord config failure)
    Operation.fail (.connectionFailed config.hosts config.port failure)
  | (client, none) =>
    Operation.change (withClient (some client))
    Operation.record (connectedRecord config)
    restoreKeyspace cluster config

/-- A session with a client: the one that it has, or a new one. -/
def connect : Operation (Session W) Unit := do
  if (← Operation.state).isConnected then return () else reconnect cluster config

/-- A keyspace entered. -/
def useKeyspace (keyspace : String) : Operation (Session W) Unit := do
  let _ ← execute cluster config (Statement.useKeyspace keyspace).text
  Operation.change (inKeyspace keyspace)

/-- The client of the session shut down. It is gone even when that fails. -/
def shutdown : Operation (Session W) Unit := do
  match (← Operation.state).client with
  | none => return ()
  | some client =>
    Operation.change (withClient none)
    match ← stop cluster client with
    | some failure => Operation.fail (.client failure)
    | none => Operation.record closedRecord

/-! ## Requests -/

/-- What a session is asked to do. -/
inductive Request
  | connect
  | useKeyspace (keyspace : String)
  | execute (cql : String)
  | shutdown
  deriving DecidableEq

/-- A request carried out; statements have an answer. -/
def perform : Request → Operation (Session W) (Option QueryResult)
  | .connect => do connect cluster config; return none
  | .useKeyspace keyspace => do useKeyspace cluster config keyspace; return none
  | .execute cql => do return some (← execute cluster config cql)
  | .shutdown => do shutdown cluster; return none

end Session

end CqlTable
