import CqlTable.Proofs.Session.Runs
import CqlTable.Session.Basic

/-!
# Records: who writes to the log

A session signs all that it writes, whatever its client does.
-/

namespace CqlTable

namespace Operation

variable {S α β : Type} {Q : LogRecord → Prop}

/-- All records that an operation writes are of a kind. -/
def Writes (Q : LogRecord → Prop) (operation : Operation S α) : Prop := ∀ s, ∀ log ∈ (operation s).logs, Q log

theorem writes_of_silent {operation : Operation S α} (silent : ∀ s, (operation s).logs = []) : Writes Q operation := by
  intro s log inside
  rw [silent] at inside
  cases inside

theorem writes_record {log : LogRecord} (kind : Q log) : Writes Q (record log : Operation S Unit) := by
  intro s other inside
  rw [List.mem_singleton.mp inside]
  exact kind

theorem Writes.bind {first : Operation S α} {next : α → Operation S β} (writes : Writes Q first)
    (others : ∀ a, Writes Q (next a)) : Writes Q (first >>= next) := by
  intro s log inside
  cases result : (first s).result with
  | error fault =>
    rw [bind_of_error result] at inside
    exact writes s log inside
  | ok a =>
    rw [bind_of_ok result] at inside
    rcases List.mem_append.mp inside with earlier | later
    · exact writes s log earlier
    · exact others a _ log later

end Operation

namespace Session

variable {W α : Type} (cluster : Cluster W) (config : Config)

/-- The operation signs what it writes. -/
def Signs (operation : Operation (Session W) α) : Prop := Operation.Writes (fun log => log.writer = writer) operation

theorem signs_of_silent {operation : Operation (Session W) α} (silent : ∀ session, (operation session).logs = []) :
    Signs operation := Operation.writes_of_silent silent

theorem signs_record {log : LogRecord} (signed : log.writer = writer) :
    Signs (Operation.record log : Operation (Session W) Unit) := Operation.writes_record signed

theorem signs_pure (a : α) : Signs (pure a : Operation (Session W) α) := signs_of_silent fun _ => rfl

theorem signs_fail (fault : Fault) : Signs (Operation.fail fault : Operation (Session W) α) :=
  signs_of_silent fun _ => rfl

theorem signs_state : Signs (Operation.state : Operation (Session W) _) := signs_of_silent fun _ => rfl

theorem signs_change (f : Session W → Session W) : Signs (Operation.change f) := signs_of_silent fun _ => rfl

theorem signs_discard (client : Nat) : Signs (discard cluster client) := by
  refine (signs_change _).bind fun _ => (signs_of_silent fun _ => rfl).bind fun failure => ?_
  cases failure with
  | none => exact signs_pure ()
  | some failure => exact signs_record rfl

theorem signs_failed (client : Nat) (cql : String) (failure : ClientFailure) :
    Signs (failed cluster config client cql failure : Operation (Session W) α) := by
  refine (signs_record rfl).bind fun _ => ?_
  split
  · exact (signs_discard cluster client).bind fun _ => signs_fail _
  · exact signs_fail _

theorem signs_answered (cql : String) (ms : Double) (result : QueryResult) :
    Signs (answered config cql ms result : Operation (Session W) QueryResult) := by
  unfold answered
  split
  · exact (signs_record rfl).bind fun _ => signs_pure result
  · exact signs_pure result

theorem signs_execute (cql : String) : Signs (execute cluster config cql) := by
  refine signs_state.bind fun session => ?_
  split
  · exact signs_fail _
  · refine (signs_of_silent fun _ => rfl).bind fun before => (signs_of_silent fun _ => rfl).bind fun answer => ?_
    split
    · exact signs_failed cluster config _ cql _
    · exact (signs_of_silent fun _ => rfl).bind fun after => signs_answered config cql _ _

theorem signs_restoreKeyspace : Signs (restoreKeyspace cluster config) := by
  refine signs_state.bind fun session => ?_
  split
  · exact signs_pure ()
  · split
    · exact signs_pure ()
    · exact (signs_execute cluster config _).bind fun _ => signs_pure ()

theorem signs_connect : Signs (connect cluster config) := by
  refine signs_state.bind fun session => ?_
  split
  · exact signs_pure ()
  · refine (signs_of_silent fun _ => rfl).bind fun made => ?_
    split
    · exact (signs_record rfl).bind fun _ => signs_fail _
    · exact (signs_change _).bind fun _ => (signs_record rfl).bind fun _ => signs_restoreKeyspace cluster config

theorem signs_useKeyspace (keyspace : String) : Signs (useKeyspace cluster config keyspace) :=
  (signs_execute cluster config _).bind fun _ => signs_change _

theorem signs_shutdown : Signs (shutdown cluster) := by
  refine signs_state.bind fun session => ?_
  split
  · exact signs_pure ()
  · refine (signs_change _).bind fun _ => (signs_of_silent fun _ => rfl).bind fun failure => ?_
    split
    · exact signs_fail _
    · exact signs_record rfl

end Session

end CqlTable
