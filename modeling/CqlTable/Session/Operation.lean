import CqlTable.Fault
import CqlTable.Log

/-!
# Operations: results with the calls and records on the way

An operation changes a state and gives a result or a fault. What it asked of
clients and what it wrote to the log stays on record either way, and so does
the state.
-/

namespace CqlTable

/-- A call of a client with how it failed, if it did. Clients are numbered in
    the order in which they are made. -/
inductive ClientCall
  | connect (client : Nat) (failure : Option ClientFailure)
  | execute (client : Nat) (cql : String) (failure : Option ClientFailure)
  | shutdown (client : Nat) (failure : Option ClientFailure)
  deriving DecidableEq

/-- What an operation leaves. -/
structure Outcome (S α : Type) where
  result : Except Fault α
  state : S
  calls : List ClientCall
  logs : List LogRecord

/-- An operation on states `S` with results `α`. -/
def Operation (S α : Type) := S → Outcome S α

namespace Operation

variable {S T α β : Type}

/-- The result, with nothing done. -/
def pure (a : α) : Operation S α := fun s => ⟨.ok a, s, [], []⟩

/-- A fault, with nothing done. -/
def fail (fault : Fault) : Operation S α := fun s => ⟨.error fault, s, [], []⟩

/-- An operation, and after its success another one. -/
def bind (first : Operation S α) (next : α → Operation S β) : Operation S β := fun s =>
  match first s with
  | ⟨.error fault, s, calls, logs⟩ => ⟨.error fault, s, calls, logs⟩
  | ⟨.ok a, s, calls, logs⟩ =>
    let second := next a s
    ⟨second.result, second.state, calls ++ second.calls, logs ++ second.logs⟩

instance : Monad (Operation S) where
  pure := pure
  bind := bind

/-- The present state. -/
def state : Operation S S := fun s => ⟨.ok s, s, [], []⟩

/-- The state changed. -/
def change (f : S → S) : Operation S Unit := fun s => ⟨.ok (), f s, [], []⟩

/-- Records written. -/
def records (logs : List LogRecord) : Operation S Unit := fun s => ⟨.ok (), s, [], logs⟩

/-- A record written. -/
def record (log : LogRecord) : Operation S Unit := records [log]

/-- A result or a fault that is already there. -/
def ofExcept (result : Except Fault α) : Operation S α := fun s => ⟨result, s, [], []⟩

/-- An operation on a part of the state. -/
def within (part : T → S) (put : S → T → T) (operation : Operation S α) : Operation T α := fun t =>
  let outcome := operation (part t)
  ⟨outcome.result, put outcome.state t, outcome.calls, outcome.logs⟩

end Operation

end CqlTable
