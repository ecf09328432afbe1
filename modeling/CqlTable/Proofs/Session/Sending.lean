import CqlTable.Proofs.Session.Runs
import CqlTable.Session.Basic

/-!
# Sending: statements given to a client in order

A session gives statements to its client, each after the one before it was
answered, and stops at the first that fails. Where it has no client it makes a
new one first, at most one, which enters the keyspace of the session.
-/

namespace CqlTable

/-! ## Over one client -/

/-- Statements given to client `n` in order: the calls, the client of the
    session after them, and whether all statements were answered. A client that
    lost its connection is shut down. -/
inductive Sends (n : Nat) : List String → List ClientCall → Option Nat → Bool → Prop
  | done : Sends n [] [] (some n) true
  | answered {cql rest calls client all} :
      Sends n rest calls client all → Sends n (cql :: rest) (.execute n cql none :: calls) client all
  | refused {cql rest failure} : failure.isConnectionLoss = false →
      Sends n (cql :: rest) [.execute n cql (some failure)] (some n) false
  | lost {cql rest failure stopped} : failure.isConnectionLoss = true →
      Sends n (cql :: rest) [.execute n cql (some failure), .shutdown n stopped] none false

namespace Sends

variable {n : Nat} {texts more : List String} {calls later : List ClientCall} {client after : Option Nat} {all : Bool}

theorem client_of_all (sends : Sends n texts calls client true) : client = some n := by
  generalize whole : true = all at sends
  induction sends with
  | done => rfl
  | answered _ ih => exact ih whole
  | refused _ => cases whole
  | lost _ => cases whole

theorem client_eq (sends : Sends n texts calls client all) {m : Nat} (inUse : client = some m) : m = n := by
  induction sends with
  | done => exact (Option.some.inj inUse).symm
  | answered _ ih => exact ih inUse
  | refused _ => exact (Option.some.inj inUse).symm
  | lost _ => cases inUse

/-- Each answered statement was one of those given. -/
theorem mem_of_answered (sends : Sends n texts calls client all) {m : Nat} {cql : String}
    (answered : .execute m cql none ∈ calls) : cql ∈ texts := by
  induction sends with
  | done => simp at answered
  | answered _ ih =>
    rcases List.mem_cons.mp answered with same | later
    · cases same
      exact List.mem_cons_self
    · exact List.mem_cons_of_mem _ (ih later)
  | refused _ => simp at answered
  | lost _ => simp at answered

theorem append (sends : Sends n texts calls client true) (next : Sends n more later after all) :
    Sends n (texts ++ more) (calls ++ later) after all := by
  generalize whole : true = first at sends
  induction sends with
  | done => exact next
  | answered _ ih => exact .answered (ih whole)
  | refused _ => cases whole
  | lost _ => cases whole

theorem append_failed (sends : Sends n texts calls client false) : Sends n (texts ++ more) calls client false := by
  generalize part : false = first at sends
  induction sends with
  | done => cases part
  | answered _ ih => exact .answered (ih part)
  | refused kept => exact .refused kept
  | lost gone => exact .lost gone

end Sends

namespace Session

variable {W α β : Type}

/-! ## Over the client of a session or a new one -/

/-- The statement that a new client of a session begins with: the keyspace of
    the session is entered, unless it has no name. -/
def restoring (session : Session W) : List String :=
  match session.keyspace with
  | none => []
  | some keyspace => if keyspace.isEmpty then [] else [(Statement.useKeyspace keyspace).text]

/-- Statements given to the client of a session, or where there is none to a
    new one: the calls, the client after them, how many clients were made, and
    whether all statements were answered. -/
inductive Attempt (before : Session W) (texts : List String) : List ClientCall → Option Nat → Nat → Bool → Prop
  | present {n calls client all} : before.client = some n → Sends n texts calls client all →
      Attempt before texts calls client before.made all
  | unreachable {failure} : before.client = none →
      Attempt before texts [.connect before.made (some failure)] none (before.made + 1) false
  | anew {calls client all} : before.client = none →
      Sends before.made (before.restoring ++ texts) calls client all →
      Attempt before texts (.connect before.made none :: calls) client (before.made + 1) all

/-- What a request can do to a session: the calls, and the session after them. -/
inductive Step (before : Session W) : Request → List ClientCall → Session W → Prop
  | idle {request after} : after.client = before.client → after.made = before.made →
      after.keyspace = before.keyspace → Step before request [] after
  | connected {calls after all} : before.client = none →
      Attempt before [] calls after.client after.made all → after.keyspace = before.keyspace →
      Step before .connect calls after
  | executed {n cql calls after all} : before.client = some n →
      Attempt before [cql] calls after.client after.made all → after.keyspace = before.keyspace →
      Step before (.execute cql) calls after
  | entered {n keyspace calls after all} : before.client = some n →
      Attempt before [(Statement.useKeyspace keyspace).text] calls after.client after.made all →
      after.keyspace = (if all then some keyspace else before.keyspace) →
      Step before (.useKeyspace keyspace) calls after
  | closed {n stopped after} : before.client = some n → after.client = none → after.made = before.made →
      after.keyspace = before.keyspace → Step before .shutdown [.shutdown n stopped] after

variable {n : Nat} {texts more : List String} {calls later : List ClientCall} {client after : Option Nat}
  {made : Nat} {all : Bool} {before session : Session W}

theorem restoring_cases (session : Session W) : session.restoring = [] ∨
    ∃ keyspace, session.keyspace = some keyspace ∧ session.restoring = [(Statement.useKeyspace keyspace).text] := by
  rw [restoring]
  cases session.keyspace with
  | none => exact .inl rfl
  | some keyspace =>
    cases empty : keyspace.isEmpty with
    | true => exact .inl (by simp only [empty, if_true])
    | false => exact .inr ⟨keyspace, rfl, by simp only [empty, Bool.false_eq_true, if_false]⟩

theorem Attempt.connected_of_all (attempt : Attempt before texts calls client made true) : ∃ n, client = some n := by
  cases attempt with
  | present _ sends => exact ⟨_, sends.client_of_all⟩
  | anew _ sends => exact ⟨_, sends.client_of_all⟩

theorem Attempt.sends (attempt : Attempt before texts calls client made all) (connected : before.client = some n) :
    Sends n texts calls client all ∧ made = before.made := by
  cases attempt with
  | present other sends =>
    rw [connected] at other
    cases other
    exact ⟨sends, rfl⟩
  | unreachable unconnected | anew unconnected _ =>
    rw [connected] at unconnected
    cases unconnected

theorem Attempt.opened (attempt : Attempt before texts calls (some n) made all) (unconnected : before.client = none) :
    n = before.made ∧ ∃ later, calls = .connect before.made none :: later ∧
      Sends before.made (before.restoring ++ texts) later (some n) all := by
  cases attempt with
  | present connected _ =>
    rw [unconnected] at connected
    cases connected
  | anew _ sends => exact ⟨sends.client_eq rfl, _, rfl, sends⟩

theorem Attempt.append (attempt : Attempt before texts calls (some n) made true)
    (next : Sends n more later after all) : Attempt before (texts ++ more) (calls ++ later) after made all := by
  cases attempt with
  | present connected sends =>
    cases sends.client_of_all
    exact .present connected (sends.append next)
  | anew unconnected sends =>
    cases sends.client_of_all
    refine .anew unconnected ?_
    rw [← List.append_assoc]
    exact sends.append next

theorem Attempt.append_failed (attempt : Attempt before texts calls client made false) :
    Attempt before (texts ++ more) calls client made false := by
  cases attempt with
  | present connected sends => exact .present connected sends.append_failed
  | unreachable unconnected => exact .unreachable unconnected
  | anew unconnected sends =>
    refine .anew unconnected ?_
    rw [← List.append_assoc]
    exact sends.append_failed

/-- The outcome of an operation that gives statements to the client of a
    session or to a new one. It fails exactly when one of the calls fails, and
    never for want of a client. -/
structure Attempted (texts : List String) (before : Session W) (outcome : Outcome (Session W) α) : Prop where
  attempt : Attempt before texts outcome.calls outcome.state.client outcome.state.made outcome.result.isOk
  connected : outcome.result ≠ .error .notConnected

theorem Attempted.bind {first : Operation (Session W) α} {next : α → Operation (Session W) β}
    (attempted : Attempted texts before (first before))
    (others : ∀ a s n, s.client = some n → Attempted more s (next a s)) :
    Attempted (texts ++ more) before ((first >>= next) before) := by
  obtain ⟨attempt, connected⟩ := attempted
  cases result : (first before).result with
  | error fault =>
    rw [result] at attempt connected
    rw [Operation.bind_of_error result]
    exact ⟨attempt.append_failed, by simpa using connected⟩
  | ok a =>
    rw [result] at attempt
    rw [Operation.bind_of_ok result]
    obtain ⟨n, inUse⟩ := attempt.connected_of_all
    obtain ⟨rest, faults⟩ := others a (first before).state n inUse
    obtain ⟨sends, made⟩ := rest.sends inUse
    rw [inUse] at attempt
    refine ⟨?_, faults⟩
    rw [made]
    exact attempt.append sends

theorem attempted_pure (a : α) (connected : session.client = some n) :
    Attempted [] session ((pure a : Operation (Session W) α) session) := by
  refine ⟨?_, nofun⟩
  show Attempt session [] [] session.client session.made true
  rw [connected]
  exact .present connected .done

theorem attempted_change {f : Session W → Session W} (connected : session.client = some n)
    (client : (f session).client = session.client) (made : (f session).made = session.made) :
    Attempted [] session (Operation.change f session) := by
  refine ⟨?_, nofun⟩
  rw [Operation.change, client, made, connected]
  exact .present connected .done

/-! ## Calls of clients -/

variable (cluster : Cluster W) (config : Config)

theorem time_bind (next : Double → Operation (Session W) β) (session : Session W) :
    (time cluster >>= next) session = next (cluster.clock session.world) session := rfl

theorem makeClient_bind (next : Nat × Option ClientFailure → Operation (Session W) β) (session : Session W) :
    (makeClient cluster >>= next) session =
      let (world, failure) := cluster.connect session.made session.world
      let rest := next (session.made, failure) { session with made := session.made + 1, world := world }
      { rest with calls := .connect session.made failure :: rest.calls } := rfl

theorem send_bind (cql : String) (next : Except ClientFailure Answer → Operation (Session W) β)
    (session : Session W) : (send cluster n cql >>= next) session =
      let (world, answer) := cluster.execute n cql session.world
      let rest := next answer { session with world := world }
      { rest with calls := .execute n cql (failureOf answer) :: rest.calls } := rfl

theorem stop_bind (next : Option ClientFailure → Operation (Session W) β) (session : Session W) :
    (stop cluster n >>= next) session =
      let (world, failure) := cluster.shutdown n session.world
      let rest := next failure { session with world := world }
      { rest with calls := .shutdown n failure :: rest.calls } := rfl

/-! ## One statement -/

theorem discard_outcome (session : Session W) : ∃ world stopped logs, discard cluster n session =
    ⟨.ok (), { session with client := none, world := world }, [.shutdown n stopped], logs⟩ := by
  rw [discard, Operation.change_bind, stop_bind]
  rcases cluster.shutdown n (withClient none session).world with ⟨world, _ | failure⟩
  · exact ⟨world, none, [], rfl⟩
  · exact ⟨world, some failure, [discardFailedRecord failure], rfl⟩

theorem failed_refused (cql : String) {failure : ClientFailure} (kept : failure.isConnectionLoss = false)
    (session : Session W) : failed (α := α) cluster config n cql failure session =
      ⟨.error (.executionFailed cql failure), session, [], [statementFailedRecord cql failure]⟩ := by
  rw [failed, Operation.record_bind, kept]
  rfl

theorem failed_lost (cql : String) {failure : ClientFailure} (lost : failure.isConnectionLoss = true)
    (session : Session W) : ∃ world stopped logs, failed (α := α) cluster config n cql failure session =
      ⟨.error (.connectionFailed config.hosts config.port failure), { session with client := none, world := world },
        [.shutdown n stopped], logs⟩ := by
  obtain ⟨world, stopped, logs, discarded⟩ := discard_outcome (n := n) cluster session
  rw [failed, Operation.record_bind, lost, if_pos rfl, Operation.bind_of_ok (by rw [discarded]), discarded]
  exact ⟨world, stopped, _, rfl⟩

/-- What becomes of a statement: it is answered, it is refused, or its client
    is lost with it. -/
theorem executeOn_outcome (cql : String) (session : Session W) :
    (∃ result world logs, executeOn cluster config n cql session =
      ⟨.ok result, { session with world := world }, [.execute n cql none], logs⟩) ∨
    (∃ failure world logs, failure.isConnectionLoss = false ∧ executeOn cluster config n cql session =
      ⟨.error (.executionFailed cql failure), { session with world := world },
        [.execute n cql (some failure)], logs⟩) ∨
    (∃ failure world stopped logs, failure.isConnectionLoss = true ∧ executeOn cluster config n cql session =
      ⟨.error (.connectionFailed config.hosts config.port failure), { session with client := none, world := world },
        [.execute n cql (some failure), .shutdown n stopped], logs⟩) := by
  rw [executeOn, time_bind, send_bind]
  rcases cluster.execute n cql session.world with ⟨world, failure | answer⟩
  · right
    cases loss : failure.isConnectionLoss with
    | false =>
      left
      simp only [failed_refused cluster config cql loss]
      exact ⟨failure, world, _, loss, rfl⟩
    | true =>
      right
      obtain ⟨later, stopped, logs, ended⟩ :=
        failed_lost (α := QueryResult) (n := n) cluster config cql loss { session with world := world }
      simp only [ended]
      exact ⟨failure, later, stopped, _, loss, rfl⟩
  · left
    simp only [time_bind, answered]
    cases config.verbose with
    | true => exact ⟨answer.result, world, _, rfl⟩
    | false => exact ⟨answer.result, world, _, rfl⟩

theorem execute_connected (cql : String) (connected : session.client = some n) :
    execute cluster config cql session = executeOn cluster config n cql session := by
  rw [execute, Operation.state_bind, connected]

theorem execute_unconnected (cql : String) (unconnected : session.client = none) :
    execute cluster config cql session = ⟨.error .notConnected, session, [], []⟩ := by
  rw [execute, Operation.state_bind, unconnected]
  rfl

theorem attempted_execute (cql : String) (connected : session.client = some n) :
    Attempted [cql] session (execute cluster config cql session) := by
  rw [execute_connected cluster config cql connected]
  rcases executeOn_outcome (n := n) cluster config cql session with
    ⟨result, world, logs, same⟩ | ⟨failure, world, logs, kept, same⟩ |
    ⟨failure, world, stopped, logs, lost, same⟩
  · rw [same]
    exact ⟨.present connected (connected ▸ .answered .done), nofun⟩
  · rw [same]
    exact ⟨.present connected (connected ▸ .refused kept), nofun⟩
  · rw [same]
    exact ⟨.present connected (.lost lost), nofun⟩

theorem execute_keyspace (cql : String) (session : Session W) :
    (execute cluster config cql session).state.keyspace = session.keyspace := by
  cases client : session.client with
  | none => rw [execute_unconnected cluster config cql client]
  | some n =>
    rw [execute_connected cluster config cql client]
    rcases executeOn_outcome (n := n) cluster config cql session with
      ⟨_, _, _, same⟩ | ⟨_, _, _, _, same⟩ | ⟨_, _, _, _, _, same⟩
    all_goals rw [same]

/-! ## Connecting -/

theorem attempted_restoreKeyspace (connected : session.client = some n) :
    Attempted session.restoring session (restoreKeyspace cluster config session) := by
  rw [restoreKeyspace, Operation.state_bind, restoring]
  cases session.keyspace with
  | none => exact attempted_pure () connected
  | some keyspace =>
    cases empty : keyspace.isEmpty with
    | true =>
      simp only [empty, if_true]
      exact attempted_pure () connected
    | false =>
      simp only [empty, Bool.false_eq_true, if_false]
      exact (attempted_execute cluster config _ connected).bind fun _ _ _ inUse => attempted_pure () inUse

theorem restoreKeyspace_keyspace (session : Session W) :
    (restoreKeyspace cluster config session).state.keyspace = session.keyspace := by
  rw [restoreKeyspace, Operation.state_bind]
  cases same : session.keyspace with
  | none => exact same
  | some keyspace =>
    cases empty : keyspace.isEmpty with
    | true =>
      simp only [empty, if_true]
      exact same
    | false =>
      simp only [empty, Bool.false_eq_true, if_false]
      rw [Operation.bind_return, execute_keyspace, same]

theorem connect_connected (connected : session.client = some n) :
    connect cluster config session = ⟨.ok (), session, [], []⟩ := by
  rw [connect, Operation.state_bind, isConnected, connected]
  rfl

/-- A new client does not connect, or it enters the keyspace of the session. -/
theorem connect_unconnected (unconnected : session.client = none) :
    (∃ failure world logs, connect cluster config session =
      ⟨.error (.connectionFailed config.hosts config.port failure),
        { session with made := session.made + 1, world := world }, [.connect session.made (some failure)], logs⟩) ∨
    (∃ opened logs, opened.client = some session.made ∧ opened.made = session.made + 1 ∧
      opened.keyspace = session.keyspace ∧ connect cluster config session =
        ⟨(restoreKeyspace cluster config opened).result, (restoreKeyspace cluster config opened).state,
          .connect session.made none :: (restoreKeyspace cluster config opened).calls, logs⟩) := by
  have closed : session.isConnected = false := by rw [isConnected, unconnected]; rfl
  rw [connect, Operation.state_bind, closed, if_neg Bool.false_ne_true, reconnect, makeClient_bind]
  rcases cluster.connect session.made session.world with ⟨world, _ | failure⟩
  · exact .inr ⟨⟨some session.made, session.made + 1, session.keyspace, world⟩, _, rfl, rfl, rfl, rfl⟩
  · exact .inl ⟨failure, world, _, rfl⟩

theorem attempted_connect (session : Session W) : Attempted [] session (connect cluster config session) := by
  cases client : session.client with
  | some n =>
    rw [connect_connected cluster config client]
    exact attempted_pure () client
  | none =>
    rcases connect_unconnected cluster config client with
      ⟨failure, world, logs, same⟩ | ⟨opened, logs, number, made, keyspace, same⟩
    · rw [same]
      exact ⟨client ▸ .unreachable client, nofun⟩
    · obtain ⟨attempt, faults⟩ := attempted_restoreKeyspace cluster config number
      obtain ⟨sends, kept⟩ := attempt.sends number
      have restoring : session.restoring ++ [] = opened.restoring := by
        rw [List.append_nil, Session.restoring, Session.restoring, keyspace]
      rw [same]
      refine ⟨?_, faults⟩
      simp only [kept, made]
      exact .anew client (restoring ▸ sends)

theorem connect_keyspace (session : Session W) :
    (connect cluster config session).state.keyspace = session.keyspace := by
  cases client : session.client with
  | some n => rw [connect_connected cluster config client]
  | none =>
    rcases connect_unconnected cluster config client with ⟨_, _, _, same⟩ | ⟨opened, _, _, _, keyspace, same⟩
    · rw [same]
    · rw [same]
      exact (restoreKeyspace_keyspace cluster config opened).trans keyspace

/-! ## Entering a keyspace, and shutting down -/

theorem attempted_useKeyspace (keyspace : String) (connected : session.client = some n) :
    Attempted [(Statement.useKeyspace keyspace).text] session (useKeyspace cluster config keyspace session) :=
  (attempted_execute cluster config _ connected).bind fun _ _ _ inUse => attempted_change inUse rfl rfl

theorem useKeyspace_unconnected (keyspace : String) (unconnected : session.client = none) :
    useKeyspace cluster config keyspace session = ⟨.error .notConnected, session, [], []⟩ := by
  have failed := execute_unconnected cluster config (Statement.useKeyspace keyspace).text unconnected
  rw [useKeyspace, Operation.bind_of_error (by rw [failed]), failed]

theorem useKeyspace_keyspace (keyspace : String) (session : Session W) :
    (useKeyspace cluster config keyspace session).state.keyspace =
      if (useKeyspace cluster config keyspace session).result.isOk then some keyspace else session.keyspace := by
  rw [useKeyspace]
  cases result : (execute cluster config (Statement.useKeyspace keyspace).text session).result with
  | error fault =>
    rw [Operation.bind_of_error result]
    exact execute_keyspace cluster config _ session
  | ok answer =>
    rw [Operation.bind_of_ok result]
    rfl

theorem shutdown_unconnected (unconnected : session.client = none) :
    shutdown cluster session = ⟨.ok (), session, [], []⟩ := by
  rw [shutdown, Operation.state_bind, unconnected]
  rfl

theorem shutdown_connected (connected : session.client = some n) : ∃ result stopped world logs,
    shutdown cluster session =
      ⟨result, { session with client := none, world := world }, [.shutdown n stopped], logs⟩ := by
  rw [shutdown, Operation.state_bind, connected]
  dsimp only
  rw [Operation.change_bind, stop_bind]
  rcases cluster.shutdown n (withClient none session).world with ⟨world, _ | failure⟩
  · exact ⟨.ok (), none, world, _, rfl⟩
  · exact ⟨.error (.client failure), some failure, world, _, rfl⟩

/-! ## Requests -/

theorem step_perform (request : Request) (before : Session W) :
    Step before request (perform cluster config request before).calls
      (perform cluster config request before).state := by
  cases request with
  | connect =>
    rw [perform, Operation.bind_return]
    cases client : before.client with
    | none =>
      exact .connected client (attempted_connect cluster config before).attempt
        (connect_keyspace cluster config before)
    | some n =>
      rw [connect_connected cluster config client]
      exact .idle rfl rfl rfl
  | useKeyspace keyspace =>
    rw [perform, Operation.bind_return]
    cases client : before.client with
    | none =>
      rw [useKeyspace_unconnected cluster config keyspace client]
      exact .idle rfl rfl rfl
    | some n =>
      exact .entered client (attempted_useKeyspace cluster config keyspace client).attempt
        (useKeyspace_keyspace cluster config keyspace before)
  | execute cql =>
    rw [perform, Operation.bind_return]
    cases client : before.client with
    | none =>
      rw [execute_unconnected cluster config cql client]
      exact .idle rfl rfl rfl
    | some n =>
      exact .executed client (attempted_execute cluster config cql client).attempt
        (execute_keyspace cluster config cql before)
  | shutdown =>
    rw [perform, Operation.bind_return]
    cases client : before.client with
    | none =>
      rw [shutdown_unconnected cluster client]
      exact .idle rfl rfl rfl
    | some n =>
      obtain ⟨result, stopped, world, logs, same⟩ := shutdown_connected cluster client
      rw [same]
      exact .closed client rfl rfl rfl

end Session

end CqlTable
