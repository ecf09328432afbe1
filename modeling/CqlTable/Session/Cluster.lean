import CqlTable.Cell
import CqlTable.Fault
import CqlTable.Result.Rows

/-!
# Clusters: what clients answer

A session knows a cluster by how its clients answer. Any cluster will do: the
world that clients change is of any type, and each call may fail.
-/

namespace CqlTable

/-- What a client answers to a statement. -/
structure Answer where
  columns : List String
  rows : List (List DriverCell)

/-- An answer with the text of each cell. -/
def Answer.result (answer : Answer) : QueryResult :=
  ⟨answer.columns, answer.rows.map fun row => row.map DriverCell.format⟩

/-- A cluster with worlds `W`: how its numbered clients connect, execute
    statements and shut down, and the time in milliseconds. -/
structure Cluster (W : Type) where
  connect : Nat → W → W × Option ClientFailure
  execute : Nat → String → W → W × Except ClientFailure Answer
  shutdown : Nat → W → W × Option ClientFailure
  clock : W → Double

end CqlTable
