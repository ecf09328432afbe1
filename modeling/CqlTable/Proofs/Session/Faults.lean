import CqlTable.Proofs.Session.Sending
import CqlTable.Proofs.Statement.Faults

/-!
# Faults of sessions: what fails at a client

What a session does fails at a client, or for want of one. It says nothing about
a value, a type or a name that a statement is built of.
-/

namespace CqlTable

namespace Session

variable {W α β : Type}

/-- An operation of a session that can only fail at a client, or for want of
    one. -/
def Remote (operation : Operation (Session W) α) : Prop :=
  ∀ session fault, (operation session).result = .error fault → ¬ fault.IsLocal

theorem Remote.bind {first : Operation (Session W) α} {next : α → Operation (Session W) β} (remote : Remote first)
    (others : ∀ a, Remote (next a)) : Remote (first >>= next) := by
  intro session fault failed
  cases result : (first session).result with
  | error other =>
    rw [Operation.bind_of_error result] at failed
    cases failed
    exact remote session fault result
  | ok a =>
    rw [Operation.bind_of_ok result] at failed
    exact others a _ fault failed

theorem remote_of_ok {operation : Operation (Session W) α}
    (succeeds : ∀ session, (operation session).result.isOk = true) : Remote operation := by
  intro session fault failed
  have done := succeeds session
  rw [failed] at done
  cases done

theorem remote_pure (a : α) : Remote (pure a : Operation (Session W) α) := remote_of_ok fun _ => rfl

theorem remote_state : Remote (Operation.state : Operation (Session W) _) := remote_of_ok fun _ => rfl

theorem remote_change (f : Session W → Session W) : Remote (Operation.change f) := remote_of_ok fun _ => rfl

variable (cluster : Cluster W) (config : Config)

theorem remote_execute (cql : String) : Remote (execute cluster config cql) := by
  intro session fault failed
  cases client : session.client with
  | none =>
    rw [execute_unconnected cluster config cql client] at failed
    cases failed
    exact id
  | some n =>
    rw [execute_connected cluster config cql client] at failed
    rcases executeOn_outcome (n := n) cluster config cql session with
      ⟨result, world, logs, same⟩ | ⟨failure, world, logs, _, same⟩ | ⟨failure, world, stopped, logs, _, same⟩
    · rw [same] at failed
      cases failed
    · rw [same] at failed
      cases failed
      exact id
    · rw [same] at failed
      cases failed
      exact id

theorem remote_restoreKeyspace : Remote (restoreKeyspace cluster config) := by
  refine remote_state.bind fun session => ?_
  split
  · exact remote_pure ()
  · split
    · exact remote_pure ()
    · exact (remote_execute cluster config _).bind fun _ => remote_pure ()

theorem remote_connect : Remote (connect cluster config) := by
  intro session fault failed
  cases client : session.client with
  | some n =>
    rw [connect_connected cluster config client] at failed
    cases failed
  | none =>
    rcases connect_unconnected cluster config client with
      ⟨failure, world, logs, same⟩ | ⟨opened, logs, _, _, _, same⟩
    · rw [same] at failed
      cases failed
      exact id
    · rw [same] at failed
      exact remote_restoreKeyspace cluster config opened fault failed

theorem remote_useKeyspace (keyspace : String) : Remote (useKeyspace cluster config keyspace) :=
  (remote_execute cluster config _).bind fun _ => remote_change _

end Session

end CqlTable
