import CqlTable.Proofs.Handle.Statements
import CqlTable.Proofs.Session.Order
import CqlTable.Proofs.Statement.Faults
import CqlTable.Session.Scripted

/-!
# What a handle sends

A request to a handle is served by the client of the session, or by a new one
where there is none: no request fails for want of a client. What a handle does
alone calls no client.
-/

namespace CqlTable

namespace TableHandle

/-! ## Requests and their statements -/

/-- Whether a request is about the table. The others are about the session. -/
def Request.isAboutTable : Request → Bool
  | .shutdown | .useKeyspace _ => false
  | _ => true

/-- The statements that are built for a request, in order. -/
def Request.statements (config : Config) (schema : TableSchema) : Request → List Statement
  | .create =>
    [.createKeyspace schema.keyspace (Double.ofNat config.replicationFactor), .useKeyspace schema.keyspace] ++
      (config.dialect.createTable schema).toOption.toList
  | .drop => [.dropTable schema.qualifiedName]
  | .truncate => [.truncate schema.qualifiedName]
  | .write row => (config.dialect.insert schema row).toOption.toList
  | .update old new => (config.dialect.update schema old new).toOption.toList
  | .delete row => (config.dialect.delete schema row).toOption.toList
  | .startScan fresh => if fresh then [.selectFrom schema "" config.allowFiltering] else []
  | .lookUp parts map =>
    (config.dialect.keyCondition schema parts map).toOption.toList.map fun condition =>
      .selectFrom schema condition config.allowFiltering
  | .useKeyspace keyspace => [.useKeyspace keyspace]
  | .openTable | .close | .rename | .readNext | .reference | .readReferenced _ | .endScan | .lookUpNext
  | .lookUpFirst | .lookUpPrevious | .lookUpLast | .estimates | .abilities | .shutdown => []

variable {W α β : Type}

/-! ## Operations of a handle alone -/

/-- An operation that leaves the session of a handle alone. -/
structure Quiet (operation : Operation (TableHandle W) α) : Prop where
  calls : ∀ handle, (operation handle).calls = []
  session : ∀ handle, (operation handle).state.session = handle.session
  faults : ∀ handle, FailsLocally (operation handle).result

theorem quiet_pure (a : α) : Quiet (pure a : Operation (TableHandle W) α) :=
  ⟨fun _ => rfl, fun _ => rfl, fun _ => failsLocally_ok a⟩

theorem quiet_state : Quiet (Operation.state : Operation (TableHandle W) _) :=
  ⟨fun _ => rfl, fun _ => rfl, fun _ => failsLocally_ok _⟩

theorem quiet_records (logs : List LogRecord) : Quiet (Operation.records logs : Operation (TableHandle W) Unit) :=
  ⟨fun _ => rfl, fun _ => rfl, fun _ => failsLocally_ok ()⟩

theorem quiet_moveCursor (f : Cursor → Cursor) : Quiet (moveCursor f : Operation (TableHandle W) Unit) :=
  ⟨fun _ => rfl, fun _ => rfl, fun _ => failsLocally_ok ()⟩

theorem quiet_ofExcept {result : Except Fault α} (fails : FailsLocally result) :
    Quiet (Operation.ofExcept result : Operation (TableHandle W) α) :=
  ⟨fun _ => rfl, fun _ => rfl, fun _ => fails⟩

theorem quiet_fail {fault : Fault} (isLocal : fault.IsLocal) :
    Quiet (Operation.fail fault : Operation (TableHandle W) α) :=
  quiet_ofExcept (failsLocally_error isLocal)

theorem Quiet.bind {first : Operation (TableHandle W) α} {next : α → Operation (TableHandle W) β}
    (quiet : Quiet first) (others : ∀ a, Quiet (next a)) : Quiet (first >>= next) := by
  have outcome : ∀ handle, ((first >>= next) handle).calls = [] ∧
      ((first >>= next) handle).state.session = handle.session ∧
      FailsLocally ((first >>= next) handle).result := by
    intro handle
    cases result : (first handle).result with
    | error fault =>
      rw [Operation.bind_of_error result]
      exact ⟨quiet.calls handle, quiet.session handle, failsLocally_error (quiet.faults handle fault result)⟩
    | ok a =>
      rw [Operation.bind_of_ok result]
      refine ⟨?_, ?_, (others a).faults _⟩
      · show (first handle).calls ++ (next a (first handle).state).calls = []
        rw [quiet.calls, (others a).calls]
        rfl
      · exact ((others a).session _).trans (quiet.session handle)
  exact ⟨fun handle => (outcome handle).1, fun handle => (outcome handle).2.1, fun handle => (outcome handle).2.2⟩

variable (config : Config) (schema : TableSchema) (cluster : Cluster W)

theorem quiet_deliver (read : MaterializedRow) :
    Quiet (deliver config schema read : Operation (TableHandle W) DecodedRow) := by
  unfold deliver
  split
  · exact quiet_pure _
  · split
    · exact quiet_fail trivial
    · exact (quiet_records _).bind fun _ => quiet_pure _

theorem quiet_readAt (index : Nat) :
    Quiet (readAt config schema index : Operation (TableHandle W) (Option DecodedRow)) := by
  refine quiet_state.bind fun handle => ?_
  split
  · exact quiet_pure _
  · exact (quiet_moveCursor _).bind fun _ => (quiet_deliver config schema _).bind fun _ => quiet_pure _

theorem quiet_readNext : Quiet (readNext config schema : Operation (TableHandle W) (Option DecodedRow)) :=
  quiet_state.bind fun handle => quiet_readAt config schema handle.cursor.next

theorem quiet_readFirst : Quiet (readFirst config schema : Operation (TableHandle W) (Option DecodedRow)) :=
  (quiet_moveCursor _).bind fun _ => quiet_readNext config schema

theorem quiet_readReferenced (ref : Bytes) :
    Quiet (readReferenced config schema ref : Operation (TableHandle W) (Option DecodedRow)) :=
  (quiet_ofExcept (orFault_failsLocally _)).bind fun index => quiet_readAt config schema index

theorem quiet_reference : Quiet (reference : Operation (TableHandle W) Bytes) := by
  refine quiet_state.bind fun handle => ?_
  split
  · exact quiet_fail trivial
  · exact quiet_ofExcept (orFault_failsLocally _)

/-! ## Operations that give statements to a client -/

/-- The outcome of an operation of a handle that gives statements to a client.
    Where it succeeds, all of them were answered. -/
structure Served (texts : List String) (before : TableHandle W) (outcome : Outcome (TableHandle W) α) : Prop where
  attempt : ∃ all, Session.Attempt before.session texts outcome.calls outcome.state.session.client
    outcome.state.session.made all ∧ (outcome.result.isOk = true → all = true)
  connected : outcome.result ≠ .error .notConnected

variable {config schema cluster} {texts more : List String} {handle : TableHandle W}

theorem Quiet.served {operation : Operation (TableHandle W) α} (quiet : Quiet operation) {n : Nat}
    (connected : handle.session.client = some n) : Served [] handle (operation handle) := by
  refine ⟨⟨true, ?_, fun _ => rfl⟩, (quiet.faults handle).ne_notConnected⟩
  rw [quiet.calls, quiet.session, connected]
  exact .present connected .done

theorem served_onSession {operation : Operation (Session W) α} {next : α → Operation (TableHandle W) β}
    (attempted : Session.Attempted texts handle.session (operation handle.session))
    (others : ∀ a later n, later.session.client = some n → Served more later (next a later)) :
    Served (texts ++ more) handle ((onSession operation >>= next) handle) := by
  obtain ⟨attempt, faults⟩ := attempted
  cases result : (operation handle.session).result with
  | error fault =>
    have failed : (onSession operation handle).result = .error fault := result
    rw [result] at attempt faults
    rw [Operation.bind_of_error failed]
    exact ⟨⟨false, attempt.append_failed, nofun⟩, by simpa using faults⟩
  | ok a =>
    have done : (onSession operation handle).result = .ok a := result
    rw [result] at attempt
    rw [Operation.bind_of_ok done]
    obtain ⟨n, client⟩ := attempt.connected_of_all
    have opened : (onSession operation handle).state.session.client = some n := client
    obtain ⟨⟨all, rest, whole⟩, connected⟩ := others a (onSession operation handle).state n opened
    obtain ⟨sends, made⟩ := rest.sends opened
    rw [client] at attempt
    refine ⟨⟨all, ?_, whole⟩, connected⟩
    rw [made]
    exact attempt.append sends

theorem Served.bind {first : Operation (TableHandle W) α} {next : α → Operation (TableHandle W) β}
    (served : Served texts handle (first handle)) (quiet : ∀ a, Quiet (next a)) :
    Served texts handle ((first >>= next) handle) := by
  obtain ⟨⟨all, attempt, whole⟩, connected⟩ := served
  cases result : (first handle).result with
  | error fault =>
    rw [result] at connected
    rw [Operation.bind_of_error result]
    exact ⟨⟨all, attempt, nofun⟩, by simpa using connected⟩
  | ok a =>
    rw [result] at whole
    rw [Operation.bind_of_ok result]
    refine ⟨⟨all, ?_, fun _ => whole rfl⟩, ((quiet a).faults _).ne_notConnected⟩
    simp only [(quiet a).calls, (quiet a).session, List.append_nil]
    exact attempt

theorem served_of_attempted {operation : Operation (Session W) α}
    (attempted : Session.Attempted texts handle.session (operation handle.session)) :
    Served texts handle (onSession operation handle) :=
  ⟨⟨_, attempted.attempt, id⟩, attempted.connected⟩

variable (config cluster)

theorem served_run (statement : Statement) (handle : TableHandle W) :
    Served [statement.text] handle (run config cluster statement handle) :=
  served_of_attempted ((Session.attempted_connect cluster config handle.session).bind fun _ _ _ client =>
    Session.attempted_execute cluster config statement.text client)

variable (schema)

/-- What is done before a table is created: its keyspace is created and
    entered. -/
def prepare : Operation (Session W) Unit := do
  Session.connect cluster config
  let _ ← Session.execute cluster config
    (Statement.createKeyspace schema.keyspace (Double.ofNat config.replicationFactor)).text
  Session.useKeyspace cluster config schema.keyspace

theorem attempted_prepare (session : Session W) :
    Session.Attempted [(Statement.createKeyspace schema.keyspace (Double.ofNat config.replicationFactor)).text,
      (Statement.useKeyspace schema.keyspace).text] session (prepare config schema cluster session) :=
  (Session.attempted_connect cluster config session).bind fun _ _ _ client =>
    (Session.attempted_execute cluster config _ client).bind fun _ _ _ client =>
      Session.attempted_useKeyspace cluster config schema.keyspace client

theorem served_create (handle : TableHandle W) :
    Served ((Request.statements config schema .create).map Statement.text) handle
      (create config schema cluster handle) := by
  rw [Request.statements, List.map_append]
  refine served_onSession (attempted_prepare config schema cluster handle.session) ?_
  intro _ later n client
  -- The columns are looked at only now: where one is refused, two statements are sent.
  have fails := config.dialect.createTable_failsLocally schema
  cases built : config.dialect.createTable schema with
  | error fault =>
    rw [built] at fails
    exact (quiet_ofExcept (failsLocally_error (fails fault rfl))).served client
  | ok statement =>
    show Served ([statement.text] ++ []) later _
    exact served_onSession (Session.attempted_execute cluster config statement.text client)
      fun _ _ _ client => (quiet_records _).served client

/-! ## Requests -/

/-- The outcome of a request for which nothing is sent. -/
structure Unsent (statements : List Statement) (outcome : Outcome (TableHandle W) α) : Prop where
  statements : statements = []
  calls : outcome.calls = []
  faults : FailsLocally outcome.result

variable {config cluster schema}

theorem Unsent.bind {statements : List Statement} {first : Operation (TableHandle W) α}
    {next : α → Operation (TableHandle W) β} (unsent : Unsent statements (first handle))
    (quiet : ∀ a, Quiet (next a)) : Unsent statements ((first >>= next) handle) := by
  obtain ⟨statements, calls, faults⟩ := unsent
  cases result : (first handle).result with
  | error fault =>
    rw [Operation.bind_of_error result]
    exact ⟨statements, calls, failsLocally_error (faults fault result)⟩
  | ok a =>
    rw [Operation.bind_of_ok result]
    refine ⟨statements, ?_, (quiet a).faults _⟩
    rw [calls, (quiet a).calls, List.append_nil]

theorem Quiet.unsent {operation : Operation (TableHandle W) α} (quiet : Quiet operation) (handle : TableHandle W) :
    Unsent [] (operation handle) := ⟨rfl, quiet.calls handle, quiet.faults handle⟩

/-- A request is served by a client, or it is refused or answered without. -/
def Handled (statements : List Statement) (before : TableHandle W) (outcome : Outcome (TableHandle W) α) : Prop :=
  Served (statements.map Statement.text) before outcome ∨ Unsent statements outcome

theorem Handled.bind {statements : List Statement} {first : Operation (TableHandle W) α}
    {next : α → Operation (TableHandle W) β} (handled : Handled statements handle (first handle))
    (quiet : ∀ a, Quiet (next a)) : Handled statements handle ((first >>= next) handle) :=
  handled.imp (·.bind quiet) (·.bind quiet)

variable (config cluster schema)

theorem handled_runBuilt {statement : Except Fault Statement} (fails : FailsLocally statement)
    (handle : TableHandle W) : Handled statement.toOption.toList handle (runBuilt config cluster statement handle) := by
  cases statement with
  | error fault => exact .inr ⟨rfl, rfl, failsLocally_error (fails fault rfl)⟩
  | ok statement => exact .inl (served_run config cluster statement handle)

variable {request : Request} {statement : Except Fault Statement}

theorem failsLocally_of_statement (sent : request.statement? config schema = some statement) :
    FailsLocally statement := by
  cases request with
  | write row =>
    cases sent
    exact config.dialect.insertInto_failsLocally schema schema.columns row
  | update old new =>
    cases sent
    exact config.dialect.update_failsLocally schema old new
  | delete row =>
    cases sent
    exact config.dialect.delete_failsLocally schema row
  | lookUp parts map =>
    cases sent
    exact (config.dialect.keyCondition_failsLocally schema parts map).map _
  | drop | truncate =>
    cases sent
    exact failsLocally_ok _
  | startScan fresh =>
    cases fresh with
    | false => cases sent
    | true =>
      cases sent
      exact failsLocally_ok _
  | _ => cases sent

theorem statements_of_statement (sent : request.statement? config schema = some statement) :
    request.statements config schema = statement.toOption.toList := by
  cases request with
  | lookUp parts map =>
    cases sent
    rw [Request.statements]
    cases config.dialect.keyCondition schema parts map with
    | error fault => rfl
    | ok condition => rfl
  | write | update | delete | drop | truncate =>
    cases sent
    rfl
  | startScan fresh =>
    cases fresh with
    | false => cases sent
    | true =>
      cases sent
      rfl
  | _ => cases sent

theorem quiet_conclude (request : Request) (result : QueryResult) :
    Quiet (request.conclude config schema result : Operation (TableHandle W) Reply) := by
  cases request with
  | drop | truncate | startScan => exact (quiet_moveCursor _).bind fun _ => quiet_pure _
  | lookUp parts map =>
    exact (quiet_moveCursor _).bind fun _ => (quiet_readNext config schema).bind fun _ => quiet_pure _
  | _ => exact quiet_pure _

theorem handled_perform (about : request.isAboutTable = true) (handle : TableHandle W) :
    Handled (request.statements config schema) handle (perform config schema cluster request handle) := by
  have quietly : ∀ {operation : Operation (TableHandle W) Reply}, Quiet operation →
      Handled [] handle (operation handle) := fun quiet => .inr (quiet.unsent handle)
  cases sent : request.statement? config schema with
  | some statement =>
    rw [statements_of_statement config schema sent, perform_of_statement cluster sent]
    exact (handled_runBuilt config cluster (failsLocally_of_statement config schema sent) handle).bind
      (quiet_conclude config schema request)
  | none =>
    cases request with
    | create => exact .inl ((served_create config schema cluster handle).bind fun _ => quiet_pure _)
    | openTable =>
      have attempted := Session.attempted_connect cluster config handle.session
      exact .inl ((served_of_attempted attempted).bind fun _ => quiet_pure _)
    | startScan fresh =>
      cases fresh with
      | false => exact quietly ((quiet_moveCursor Cursor.rewound).bind fun _ => quiet_pure _)
      | true => cases sent
    | close | endScan => exact quietly ((quiet_moveCursor _).bind fun _ => quiet_pure _)
    | readNext | lookUpNext => exact quietly ((quiet_readNext config schema).bind fun _ => quiet_pure _)
    | lookUpFirst => exact quietly ((quiet_readFirst config schema).bind fun _ => quiet_pure _)
    | readReferenced ref => exact quietly ((quiet_readReferenced config schema ref).bind fun _ => quiet_pure _)
    | reference => exact quietly (quiet_reference.bind fun _ => quiet_pure _)
    | rename | lookUpPrevious | lookUpLast => exact quietly (quiet_fail trivial)
    | estimates | abilities => exact quietly (quiet_pure _)
    | shutdown | useKeyspace keyspace => cases about
    | _ => cases sent

/-- After any requests, a request about the table never fails for want of a
    client. Its calls are orderly: it connects at most once, and only where there
    was no client; it sends its statements at most once, in order, after at most
    one that restores the keyspace of a new client; and it ends at the first
    call that fails. Where it succeeds, all its statements were sent. -/
theorem statements_sent_once (earlier : List Request) (request : Request) (about : request.isAboutTable = true)
    (session : Session W) :
    let before := (Operation.run (perform config schema cluster) earlier ⟨session, .released⟩).state
    let outcome := perform config schema cluster request before
    let texts := (request.statements config schema).map Statement.text
    (∀ fault, outcome.result = .error fault → fault.code? ≠ some "not_connected") ∧
      Session.Orderly before.session texts outcome.calls ∧
      (outcome.result.isOk = true → texts <:+ executed outcome.calls) := by
  intro before outcome texts
  have coded : ∀ fault : Fault, fault ≠ .notConnected → fault.code? ≠ some "not_connected" := by
    intro fault other
    cases fault with
    | notConnected => exact absurd rfl other
    | _ => simp [Fault.code?]
  rcases handled_perform config schema cluster about before with served | unsent
  · obtain ⟨⟨all, attempt, whole⟩, connected⟩ := served
    refine ⟨?_, attempt.orderly, ?_⟩
    · intro fault failed
      exact coded fault fun missing => connected (missing ▸ failed)
    · intro success
      rw [whole success] at attempt
      exact attempt.executed_of_all
  · obtain ⟨empty, calls, faults⟩ := unsent
    have calls : outcome.calls = [] := calls
    have texts_eq : texts = [] := by
      show (request.statements config schema).map Statement.text = []
      rw [empty]
      rfl
    refine ⟨?_, ?_, ?_⟩
    · intro fault failed
      exact coded fault fun missing => faults.ne_notConnected (missing ▸ failed)
    · rw [calls]
      exact Session.orderly_nil _ _
    · intro _
      rw [texts_eq]
      exact List.nil_suffix

/-- A table is dropped over a new client after the loss of the one before it. -/
theorem dropped_over_new_client :
    let config : Config := ⟨["10.0.0.1"], 9042, "cqlbridge", none, false, true, 1, "datacenter1", none, none,
      10000, 10000, .local, false, false⟩
    let schema : TableSchema := ⟨"shop", "t", [⟨"id", .integer .int, true, .regular⟩]⟩
    let answers : Script :=
      ⟨[], [], [⟨"TRUNCATE", some 1, Double.ofNat 0, .error (.noHost "gone")⟩], Double.ofNat 0⟩
    let before := (Operation.run (perform config schema Script.cluster) [.create, .truncate]
      ⟨Session.start answers, .released⟩).state
    let outcome := perform config schema Script.cluster .drop before
    outcome.calls = [.connect 1 none, .execute 1 "USE shop" none, .execute 1 "DROP TABLE IF EXISTS shop.t" none] ∧
      Session.Orderly before.session ["DROP TABLE IF EXISTS shop.t"] outcome.calls := by
  intro config schema answers before outcome
  have calls : outcome.calls =
      [.connect 1 none, .execute 1 "USE shop" none, .execute 1 "DROP TABLE IF EXISTS shop.t" none] := by
    decide +kernel
  exact ⟨calls, (statements_sent_once config schema Script.cluster [.create, .truncate] .drop rfl
    (Session.start answers)).2.1⟩

end TableHandle

end CqlTable
