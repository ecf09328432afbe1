import CqlTable.Proofs.Conversion.Basic
import CqlTable.Proofs.Handle.Sending
import CqlTable.Proofs.Session.Faults
import CqlTable.Schema.Checked

/-!
# Creating a table

The keyspace of a table is created and entered before the types of its columns
are looked at. So a table that is refused for one of them has changed the
keyspace of the session by then (`create_refused_iff`).
-/

namespace CqlTable

namespace TableHandle

variable {W : Type} (config : Config) (schema : TableSchema) (cluster : Cluster W)

/-! ## Before the table -/

theorem remote_prepare : Session.Remote (prepare config schema cluster) :=
  (Session.remote_connect cluster config).bind fun _ => (Session.remote_execute cluster config _).bind fun _ =>
    Session.remote_useKeyspace cluster config schema.keyspace

theorem prepare_ok_iff (session : Session W) : (prepare config schema cluster session).result = .ok () ↔
    ∀ call ∈ (prepare config schema cluster session).calls, call.failure? = none := by
  rw [← (attempted_prepare config schema cluster session).attempt.all_iff]
  cases (prepare config schema cluster session).result with
  | error fault => simp [Except.isOk, Except.toBool]
  | ok done => simp [Except.isOk, Except.toBool]

theorem prepare_executed {session : Session W} (done : (prepare config schema cluster session).result = .ok ()) :
    executed (prepare config schema cluster session).calls =
      (if session.isConnected then [] else session.restoring) ++
        [(Statement.createKeyspace schema.keyspace (Double.ofNat config.replicationFactor)).text,
          (Statement.useKeyspace schema.keyspace).text] := by
  have attempt := (attempted_prepare config schema cluster session).attempt
  rw [done] at attempt
  exact attempt.executed_eq

theorem prepare_keyspace {session : Session W} (done : (prepare config schema cluster session).result = .ok ()) :
    (prepare config schema cluster session).state.keyspace = some schema.keyspace := by
  have isOk : (prepare config schema cluster session).result.isOk = true := by rw [done]; rfl
  refine Operation.bind_isOk (P := fun later : Session W => later.keyspace = some schema.keyspace) ?_ isOk
  intro _ before
  refine Operation.bind_isOk (P := fun later : Session W => later.keyspace = some schema.keyspace) ?_
  intro _ before entered
  rw [Session.useKeyspace_keyspace, if_pos entered]

/-! ## The table -/

variable {config schema cluster} {handle : TableHandle W} {fault : Fault}

theorem create_of_unprepared (failed : (prepare config schema cluster handle.session).result = .error fault) :
    (create config schema cluster handle).result = .error fault ∧
      (create config schema cluster handle).calls = (prepare config schema cluster handle.session).calls := by
  have opened : (onSession (prepare config schema cluster) handle).result = .error fault := failed
  have same : create config schema cluster handle = _ := Operation.bind_of_error opened
  rw [same]
  exact ⟨rfl, rfl⟩

theorem create_of_refused (prepared : (prepare config schema cluster handle.session).result = .ok ())
    (refused : config.dialect.createTable schema = .error fault) :
    (create config schema cluster handle).result = .error fault ∧
      (create config schema cluster handle).calls = (prepare config schema cluster handle.session).calls ∧
      (create config schema cluster handle).state.session = (prepare config schema cluster handle.session).state := by
  have opened : (onSession (prepare config schema cluster) handle).result = .ok () := prepared
  have same : create config schema cluster handle = _ := Operation.bind_of_ok opened
  rw [same, refused]
  exact ⟨rfl, List.append_nil _, rfl⟩

theorem create_of_accepted {statement : Statement}
    (prepared : (prepare config schema cluster handle.session).result = .ok ())
    (accepted : config.dialect.createTable schema = .ok statement) :
    (create config schema cluster handle).result =
      (Session.execute cluster config statement.text
        (prepare config schema cluster handle.session).state).result.map fun _ => () := by
  have opened : (onSession (prepare config schema cluster) handle).result = .ok () := prepared
  have same : create config schema cluster handle = _ := Operation.bind_of_ok opened
  rw [same, accepted]
  exact Operation.result_bind_record (onSession (Session.execute cluster config statement.text)) _ _

/-- A creation fails for want of support exactly when its keyspace was prepared
    and its table is refused: whatever else fails is a fault of a client. -/
theorem create_unsupported_iff {operation : Unsupported} :
    (create config schema cluster handle).result = .error (.unsupported operation) ↔
      (prepare config schema cluster handle.session).result = .ok () ∧
        config.dialect.createTable schema = .error (.unsupported operation) := by
  cases prepared : (prepare config schema cluster handle.session).result with
  | error other =>
    have remote := remote_prepare config schema cluster handle.session other prepared
    rw [(create_of_unprepared prepared).1]
    constructor
    · rintro ⟨⟩
      exact absurd trivial remote
    · rintro ⟨⟨⟩, _⟩
  | ok done =>
    cases built : config.dialect.createTable schema with
    | error other =>
      rw [(create_of_refused prepared built).1]
      constructor
      · rintro ⟨⟩
        exact ⟨rfl, rfl⟩
      · rintro ⟨_, ⟨⟩⟩
        rfl
    | ok statement =>
      rw [create_of_accepted prepared built, map_eq_error]
      constructor
      · intro failed
        exact absurd trivial (Session.remote_execute cluster config statement.text _ _ failed)
      · rintro ⟨_, ⟨⟩⟩

variable (config schema cluster)

/-- A table is refused exactly where types are refused, one of its columns has
    such a type, and no call of a client failed. By then its keyspace has been
    created and entered; nothing else was sent. -/
theorem create_refused_iff (handle : TableHandle W) :
    let outcome := perform config schema cluster .create handle
    (∀ operation, outcome.result = .error (.unsupported operation) ↔
      config.rejectUnsupportedTypes = true ∧
        (∃ column, schema.columns.find? (fun column => !column.type.isSupported) = some column ∧
          operation = .createTable column.name) ∧
        ∀ call ∈ outcome.calls, call.failure? = none) ∧
    ∀ operation, outcome.result = .error (.unsupported operation) →
      executed outcome.calls = (if handle.session.isConnected then [] else handle.session.restoring) ++
        [(Statement.createKeyspace schema.keyspace (Double.ofNat config.replicationFactor)).text,
          (Statement.useKeyspace schema.keyspace).text] ∧
      outcome.state.session.keyspace = some schema.keyspace := by
  intro outcome
  have performed : outcome = _ := Operation.bind_return (create config schema cluster) (fun _ => Reply.done) handle
  rw [performed]
  simp only [map_eq_error]
  refine ⟨?_, ?_⟩
  · intro operation
    rw [create_unsupported_iff]
    constructor
    · rintro ⟨prepared, refused⟩
      obtain ⟨reject, column, found, same⟩ := (config.dialect.createTable_eq_error_iff schema).mp refused
      cases same
      rw [(create_of_refused prepared refused).2.1]
      exact ⟨reject, ⟨column, found, rfl⟩, (prepare_ok_iff config schema cluster handle.session).mp prepared⟩
    · rintro ⟨reject, ⟨column, found, rfl⟩, answered⟩
      refine ⟨?_, (config.dialect.createTable_eq_error_iff schema).mpr ⟨reject, column, found, rfl⟩⟩
      cases prepared : (prepare config schema cluster handle.session).result with
      | ok done => rfl
      | error fault =>
        rw [(create_of_unprepared prepared).2] at answered
        rw [← prepared]
        exact (prepare_ok_iff config schema cluster handle.session).mpr answered
  · intro operation failed
    obtain ⟨prepared, refused⟩ := create_unsupported_iff.mp failed
    obtain ⟨_, calls, state⟩ := create_of_refused prepared refused
    rw [calls, state]
    exact ⟨prepare_executed config schema cluster prepared, prepare_keyspace config schema cluster prepared⟩

/-- A session without a client that was in another keyspace has left it when a
    table is refused. -/
theorem refused_after_new_client :
    let config : Config := ⟨["10.0.0.1"], 9042, "cqlbridge", none, false, true, 1, "datacenter1", none, none,
      10000, 10000, .local, false, true⟩
    let schema : TableSchema := ⟨"shop", "t", [⟨"place", .other "point", true, .regular⟩]⟩
    let answers : Script := ⟨[], [], [], Double.ofNat 0⟩
    let before := (Operation.run (perform config schema Script.cluster) [.openTable, .useKeyspace "depot", .shutdown]
      (start answers)).state
    let outcome := perform config schema Script.cluster .create before
    before.session.keyspace = some "depot" ∧
      outcome.result = .error (.unsupported (.createTable "place")) ∧
      executed outcome.calls = ["USE depot",
        "CREATE KEYSPACE IF NOT EXISTS shop WITH replication = \x7b'class': 'SimpleStrategy', 'replication_factor': 1\x7d",
        "USE shop"] ∧
      outcome.state.session.keyspace = some "shop" := by
  intro config schema answers before outcome
  have depot : before.session.keyspace = some "depot" := by decide +kernel
  have closed : before.session.isConnected = false := by decide +kernel
  have answered : ∀ call ∈ outcome.calls, call.failure? = none := by decide +kernel
  obtain ⟨refuses, sends⟩ := create_refused_iff config schema Script.cluster before
  have performed : perform config schema Script.cluster .create before = outcome := rfl
  rw [performed] at refuses sends
  have refused : outcome.result = .error (.unsupported (.createTable "place")) :=
    (refuses _).mpr ⟨rfl, ⟨⟨"place", .other "point", true, .regular⟩, rfl, rfl⟩, answered⟩
  obtain ⟨sent, entered⟩ := sends _ refused
  rw [closed, Session.restoring, depot] at sent
  exact ⟨depot, refused, sent.trans (by decide +kernel), entered⟩

/-- A table of an accepted schema is refused, yet its keyspace has been created
    and the session, which was in none, has entered it. -/
theorem refused_with_effects :
    let config : Config := ⟨["10.0.0.1"], 9042, "cqlbridge", none, false, true, 1, "datacenter1", none, none,
      10000, 10000, .local, false, true⟩
    let schema : TableSchema := ⟨"shop", "t", [⟨"id", .integer .int, true, .regular⟩,
      ⟨"place", .other "point", true, .regular⟩]⟩
    let before := (perform config schema Script.cluster .openTable (start ⟨[], [], [], Double.ofNat 0⟩)).state
    let outcome := perform config schema Script.cluster .create before
    TableSchema.ofJson (.object [("keyspace", .string "shop"), ("table", .string "t"),
        ("columns", .array [
          .object [("name", .string "id"), ("type", .object [("kind", .string "int")])],
          .object [("name", .string "place"),
            ("type", .object [("kind", .string "other"), ("name", .string "point")])]])]) = .ok schema ∧
      before.session.keyspace = none ∧
      outcome.result = .error (.unsupported (.createTable "place")) ∧
      outcome.calls = [.execute 0
        "CREATE KEYSPACE IF NOT EXISTS shop WITH replication = \x7b'class': 'SimpleStrategy', 'replication_factor': 1\x7d"
        none, .execute 0 "USE shop" none] ∧
      outcome.state.session.keyspace = some "shop" := by
  intro config schema before outcome
  have calls : outcome.calls = [.execute 0
      "CREATE KEYSPACE IF NOT EXISTS shop WITH replication = \x7b'class': 'SimpleStrategy', 'replication_factor': 1\x7d"
      none, .execute 0 "USE shop" none] := by decide +kernel
  have answered : ∀ call ∈ (prepare config schema Script.cluster before.session).calls, call.failure? = none := by
    decide +kernel
  have refused : (create config schema Script.cluster before).result = .error (.unsupported (.createTable "place")) :=
    create_unsupported_iff.mpr ⟨(prepare_ok_iff config schema Script.cluster before.session).mpr answered, rfl⟩
  have replied : outcome.result = (create config schema Script.cluster before).result.map fun _ => Reply.done :=
    congrArg Outcome.result (Operation.bind_return _ (fun _ => Reply.done) before)
  exact ⟨rfl, by decide +kernel, replied.trans (map_eq_error.mpr refused), calls, by decide +kernel⟩

end TableHandle

end CqlTable
