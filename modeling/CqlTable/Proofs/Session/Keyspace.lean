import CqlTable.Proofs.Session.LifeCycle
import CqlTable.Proofs.Statement.Reading
import CqlTable.Session.Scripted

/-!
# The keyspace of a session

A session says that it is in a keyspace. Its client has entered that keyspace
last, unless the client began with an attempt to enter it that was refused:
such a client is kept.
-/

namespace CqlTable

/-! ## Statements that enter a keyspace -/

/-- A statement that enters a keyspace. -/
def IsUse (cql : String) : Prop := StatementKind.ofText cql = .use

instance (cql : String) : Decidable (IsUse cql) := inferInstanceAs (Decidable (_ = _))

theorem isUse_useKeyspace (keyspace : String) : IsUse (Statement.useKeyspace keyspace).text := by
  have opening : "USE ".toList = StatementKind.use.word.toList ++ [' '] := by decide
  have text : (Statement.useKeyspace keyspace).text = "USE " ++ keyspace := rfl
  have written : (Statement.useKeyspace keyspace).text.toList =
      StatementKind.use.word.toList ++ ' ' :: keyspace.toList := by
    rw [text, String.toList_append, opening, List.append_assoc, List.singleton_append]
  exact StatementKind.ofText_word written

/-! ## Where a client is -/

/-- Client `n` is in a keyspace: the statement that enters it succeeded, and no
    statement that enters a keyspace has succeeded since. -/
def InKeyspace (n : Nat) (keyspace : String) (calls : List ClientCall) : Prop :=
  ∃ before after, calls = before ++ .execute n (Statement.useKeyspace keyspace).text none :: after ∧
    ∀ cql, IsUse cql → .execute n cql none ∉ after

/-- The first statement of client `n` was to enter a keyspace, and was refused
    without a loss of the connection. The client has entered no keyspace. -/
def RestoreRefused (n : Nat) (keyspace : String) (calls : List ClientCall) : Prop :=
  (∃ before failure after, failure.isConnectionLoss = false ∧
    calls = before ++ .connect n none :: .execute n (Statement.useKeyspace keyspace).text (some failure) :: after) ∧
  ∀ cql, IsUse cql → .execute n cql none ∉ calls

section
variable {n : Nat} {keyspace : String} {calls later : List ClientCall}

theorem InKeyspace.append (inside : InKeyspace n keyspace calls)
    (others : ∀ cql, IsUse cql → .execute n cql none ∉ later) : InKeyspace n keyspace (calls ++ later) := by
  obtain ⟨before, after, rfl, unentered⟩ := inside
  refine ⟨before, after ++ later, by simp, ?_⟩
  intro cql use there
  rcases List.mem_append.mp there with there | there
  · exact unentered cql use there
  · exact others cql use there

theorem RestoreRefused.append (refused : RestoreRefused n keyspace calls)
    (others : ∀ cql, IsUse cql → .execute n cql none ∉ later) : RestoreRefused n keyspace (calls ++ later) := by
  obtain ⟨⟨before, failure, after, kept, rfl⟩, unentered⟩ := refused
  refine ⟨⟨before, failure, after ++ later, kept, by simp⟩, ?_⟩
  intro cql use there
  rcases List.mem_append.mp there with there | there
  · exact unentered cql use there
  · exact others cql use there

theorem RestoreRefused.not_inKeyspace (refused : RestoreRefused n keyspace calls) : ¬ InKeyspace n keyspace calls := by
  rintro ⟨before, after, rfl, _⟩
  exact refused.2 _ (isUse_useKeyspace keyspace) (by simp)

end

namespace Session

variable {W : Type}

/-- A client of a session with a keyspace is in it, or was refused it. -/
def Placed (session : Session W) (calls : List ClientCall) : Prop :=
  ∀ n keyspace, session.client = some n → session.keyspace = some keyspace → keyspace ≠ "" →
    InKeyspace n keyspace calls ∨ RestoreRefused n keyspace calls

variable {before after : Session W} {calls later : List ClientCall}

theorem Placed.append (placed : Placed before calls) {n : Nat} {keyspace : String} (client : before.client = some n)
    (same : before.keyspace = some keyspace) (named : keyspace ≠ "")
    (others : ∀ cql, IsUse cql → .execute n cql none ∉ later) :
    InKeyspace n keyspace (calls ++ later) ∨ RestoreRefused n keyspace (calls ++ later) := by
  rcases placed n keyspace client same named with inside | refused
  · exact .inl (inside.append others)
  · exact .inr (refused.append others)

theorem restoring_named {keyspace : String} (same : before.keyspace = some keyspace) (named : keyspace ≠ "") :
    before.restoring = [(Statement.useKeyspace keyspace).text] := by
  have nonempty : keyspace.isEmpty = false := by simpa using named
  rw [restoring, same]
  simp [nonempty]

theorem placed_step {request : Request} (tracks : Tracks before calls) (placed : Placed before calls)
    (step : Step before request later after) (other : ∀ cql, request = .execute cql → ¬ IsUse cql) :
    Placed after (calls ++ later) := by
  intro m keyspace client same named
  cases step with
  | idle sameClient _ sameKeyspace =>
    exact placed.append (sameClient ▸ client) (sameKeyspace ▸ same) named (by simp)
  | connected unconnected attempt sameKeyspace =>
    rw [client] at attempt
    obtain ⟨rfl, restored, rfl, sends⟩ := attempt.opened unconnected
    rw [restoring_named (sameKeyspace ▸ same) named] at sends
    cases sends with
    | answered rest =>
      cases rest
      exact .inl ⟨calls ++ [.connect before.made none], [], by simp, by simp⟩
    | refused kept =>
      refine .inr ⟨⟨calls, _, [], kept, rfl⟩, ?_⟩
      intro cql _ there
      have fresh : .execute before.made cql none ∈ calls := by simpa using there
      exact Nat.lt_irrefl _ (tracks.visits.client_lt _ fresh)
  | @executed _ cql _ _ _ connected attempt sameKeyspace =>
    obtain ⟨sends, _⟩ := attempt.sends connected
    cases sends.client_eq client
    refine placed.append connected (sameKeyspace ▸ same) named ?_
    intro _ use there
    cases List.mem_singleton.mp (sends.mem_of_answered there)
    exact other cql rfl use
  | entered connected attempt newKeyspace =>
    obtain ⟨sends, _⟩ := attempt.sends connected
    cases sends.client_eq client
    rw [client] at sends
    cases sends with
    | answered rest =>
      cases rest
      cases newKeyspace.symm.trans same
      exact .inl ⟨calls, [], rfl, by simp⟩
    | refused _ => exact placed.append connected (newKeyspace.symm.trans same) named (by simp)
  | closed _ closed _ _ => rw [closed] at client; cases client

variable (cluster : Cluster W) (config : Config)

/-- A `connect` that fails leaves a client exactly when the keyspace of the
    session was refused to a new client without a loss of its connection. -/
theorem connect_failed_iff {session : Session W} {fault : Fault}
    (failed : (connect cluster config session).result = .error fault) :
    (connect cluster config session).state.isConnected = true ↔
      ∃ keyspace failure, session.keyspace = some keyspace ∧ failure.isConnectionLoss = false ∧
        (connect cluster config session).calls =
          [.connect session.made none, .execute session.made (Statement.useKeyspace keyspace).text (some failure)] := by
  have attempt := (attempted_connect cluster config session).attempt
  rw [failed] at attempt
  cases client : session.client with
  | some n =>
    rw [connect_connected cluster config client] at failed
    cases failed
  | none =>
    constructor
    · intro connected
      obtain ⟨n, same⟩ := Option.isSome_iff_exists.mp connected
      rw [same] at attempt
      obtain ⟨rfl, later, calls, sends⟩ := attempt.opened client
      rw [List.append_nil] at sends
      rcases restoring_cases session with empty | ⟨keyspace, keyspaceIs, one⟩
      · rw [empty] at sends
        cases sends
      · rw [one] at sends
        cases sends with
        | answered rest => cases rest
        | refused kept => exact ⟨keyspace, _, keyspaceIs, kept, calls⟩
    · rintro ⟨keyspace, failure, _, _, calls⟩
      rw [isConnected]
      generalize (connect cluster config session).state.client = after at attempt ⊢
      rw [calls] at attempt
      generalize (connect cluster config session).state.made = made at attempt
      cases attempt with
      | present connected _ =>
        rw [client] at connected
        cases connected
      | anew _ sends =>
        generalize session.restoring ++ [] = texts at sends
        cases sends with
        | refused _ => rfl

/-- After any requests that give it no statement to enter a keyspace, a session
    is in the keyspace that it says it is in, unless its client was refused that
    keyspace when it was new. A `connect` that fails leaves the session without
    a client, unless its new client is refused the keyspace. -/
theorem keyspace_entered_iff {requests : List Request} (others : ∀ cql, .execute cql ∈ requests → ¬ IsUse cql)
    (world : W) :
    let after := Operation.run (perform cluster config) requests (start world)
    let again := connect cluster config after.state
    (∀ n keyspace, after.state.client = some n → after.state.keyspace = some keyspace → keyspace ≠ "" →
      (InKeyspace n keyspace after.calls ↔ ¬ RestoreRefused n keyspace after.calls)) ∧
    (∀ fault, again.result = .error fault → (again.state.isConnected = false ↔
      ¬ ∃ keyspace failure, after.state.keyspace = some keyspace ∧ failure.isConnectionLoss = false ∧
        again.calls = [.connect after.state.made none,
          .execute after.state.made (Statement.useKeyspace keyspace).text (some failure)])) := by
  intro after again
  have kept : Tracks after.state after.calls ∧ Placed after.state after.calls := by
    refine Operation.run_preserves (P := fun s calls => Tracks s calls ∧ Placed s calls) ?_
      ⟨tracks_start world, nofun⟩
    rintro request inside before calls ⟨tracks, placed⟩
    have step := step_perform cluster config request before
    exact ⟨tracks_step tracks step, placed_step tracks placed step fun cql same => others cql (same ▸ inside)⟩
  refine ⟨?_, ?_⟩
  · intro n keyspace client same named
    constructor
    · intro inside refused
      exact refused.not_inKeyspace inside
    · intro accepted
      exact (kept.2 n keyspace client same named).resolve_right accepted
  · intro fault failed
    rw [← connect_failed_iff cluster config failed, Bool.not_eq_true]

theorem keyspace_entered_again :
    let config : Config := ⟨["10.0.0.1"], 9042, "cqlbridge", none, false, true, 1, "datacenter1", none, none,
      10000, 10000, .local, false, false⟩
    let answers : Script := ⟨[], [], [], Double.ofNat 0⟩
    let requests : List Request :=
      [.connect, .useKeyspace "shop", .execute "SELECT id FROM t", .shutdown, .connect]
    let after := Operation.run (perform Script.cluster config) requests (start answers)
    (∀ cql, .execute cql ∈ requests → ¬ IsUse cql) ∧ after.state.client = some 1 ∧
      after.state.keyspace = some "shop" ∧ InKeyspace 1 "shop" after.calls := by
  intro config answers requests after
  have others : ∀ cql, .execute cql ∈ requests → ¬ IsUse cql := by
    intro cql inside
    have select : cql = "SELECT id FROM t" := by simpa [requests] using inside
    rw [select]
    decide +kernel
  have client : after.state.client = some 1 := by decide +kernel
  have keyspace : after.state.keyspace = some "shop" := by decide +kernel
  have answered : .execute 1 (Statement.useKeyspace "shop").text none ∈ after.calls := by decide +kernel
  have entered := (keyspace_entered_iff Script.cluster config others answers).1 1 "shop" client keyspace (by decide)
  refine ⟨others, client, keyspace, entered.mpr ?_⟩
  intro refused
  exact refused.2 _ (isUse_useKeyspace "shop") answered

/-- A keyspace that is gone when its session connects again is refused, and the
    session keeps a client that is not in it. -/
theorem keyspace_not_entered :
    let config : Config := ⟨["10.0.0.1"], 9042, "cqlbridge", none, false, true, 1, "datacenter1", none, none,
      10000, 10000, .local, false, false⟩
    let answers : Script := ⟨[], [], [⟨"USE shop", some 1, Double.ofNat 0, .ok ⟨[], []⟩⟩,
      ⟨"USE shop", none, Double.ofNat 0, .error (.response "Keyspace 'shop' does not exist")⟩], Double.ofNat 0⟩
    let before := Operation.run (perform Script.cluster config) [.connect, .useKeyspace "shop", .shutdown]
      (start answers)
    let again := connect Script.cluster config before.state
    again.result = .error (.executionFailed "USE shop" (.response "Keyspace 'shop' does not exist")) ∧
      again.state.isConnected = true ∧ again.state.client = some 1 ∧ again.state.keyspace = some "shop" ∧
      ¬ InKeyspace 1 "shop" (before.calls ++ again.calls) := by
  intro config answers before again
  have calls : before.calls ++ again.calls =
      [.connect 0 none, .execute 0 "USE shop" none, .shutdown 0 none, .connect 1 none,
        .execute 1 "USE shop" (some (.response "Keyspace 'shop' does not exist"))] := by decide +kernel
  refine ⟨rfl, by decide +kernel, by decide +kernel, by decide +kernel, ?_⟩
  rintro ⟨first, last, same, _⟩
  rw [calls] at same
  have entered : ClientCall.execute 1 (Statement.useKeyspace "shop").text none ∈
      first ++ .execute 1 (Statement.useKeyspace "shop").text none :: last := by simp
  rw [← same] at entered
  simp at entered

end Session

end CqlTable
