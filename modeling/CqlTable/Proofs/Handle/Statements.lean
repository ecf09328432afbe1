import CqlTable.Handle.Requests
import CqlTable.Proofs.Session.Runs

/-!
# Requests of one statement

Most of what a handle is asked to do is one statement: it is built, which may
fail, then it is sent, and then something is done with the answer. Where no
client answers it, the request fails and the cursor stays where it was.
-/

namespace CqlTable

namespace TableHandle

variable {W α : Type} (config : Config) (schema : TableSchema) (cluster : Cluster W)

/-- The statement of a request that is made of one statement, or why it cannot be
    built. -/
def Request.statement? : Request → Option (Except Fault Statement)
  | .drop => some (.ok (.dropTable schema.qualifiedName))
  | .truncate => some (.ok (.truncate schema.qualifiedName))
  | .write row => some (config.dialect.insert schema row)
  | .update old new => some (config.dialect.update schema old new)
  | .delete row => some (config.dialect.delete schema row)
  | .startScan true => some (.ok (.selectFrom schema "" config.allowFiltering))
  | .lookUp parts map =>
    some ((config.dialect.keyCondition schema parts map).map fun condition =>
      .selectFrom schema condition config.allowFiltering)
  | _ => none

/-- What a request does with the answer to its statement. -/
def Request.conclude : Request → QueryResult → Operation (TableHandle W) Reply
  | .drop, _ | .truncate, _ => do moveCursor (fun _ => Cursor.released); return .done
  | .startScan _, result => do moveCursor (fun _ => Cursor.ofResult (some result)); return .done
  | .lookUp _ _, result => do
    moveCursor (fun _ => Cursor.ofResult (some result))
    return .row (← TableHandle.readNext config schema)
  | _, _ => return .done

variable {config schema} {request : Request} {built : Except Fault Statement}

theorem perform_of_statement (sent : request.statement? config schema = some built) (handle : TableHandle W) :
    perform config schema cluster request handle =
      (runBuilt config cluster built >>= request.conclude config schema) handle := by
  cases request with
  | write row | update old new | delete row =>
    cases sent
    rfl
  | drop | truncate =>
    cases sent
    exact Operation.bind_assoc _ _ _ handle
  | startScan fresh =>
    cases fresh with
    | false => cases sent
    | true =>
      cases sent
      exact Operation.bind_assoc _ _ _ handle
  | lookUp parts map =>
    cases sent
    cases condition : config.dialect.keyCondition schema parts map with
    | error fault =>
      rw [perform, lookUp, condition]
      rfl
    | ok condition =>
      rw [perform, lookUp, condition, Operation.bind_assoc, Operation.ofExcept_bind, Operation.bind_assoc, query,
        Operation.bind_assoc]
      rfl
  | _ => cases sent

variable (config)

/-- A statement is not built or not answered, and then the cursor stays where it
    was, or what follows is done with the answer. -/
theorem runBuilt_bind_cases (built : Except Fault Statement) (next : QueryResult → Operation (TableHandle W) α)
    (handle : TableHandle W) :
    let outcome := (runBuilt config cluster built >>= next) handle
    (outcome.result.isOk = false ∧ outcome.state.cursor = handle.cursor) ∨
    ∃ statement result, built = .ok statement ∧
      let sent := run config cluster statement handle
      sent.result = .ok result ∧ sent.calls <+: outcome.calls ∧ outcome.result = (next result sent.state).result ∧
        outcome.state = (next result sent.state).state := by
  intro outcome
  cases built with
  | error fault => exact .inl ⟨rfl, rfl⟩
  | ok statement =>
    have sent : runBuilt config cluster (.ok statement) handle = run config cluster statement handle := rfl
    cases done : (run config cluster statement handle).result with
    | error fault =>
      have same : outcome = _ := Operation.bind_of_error (by rw [sent, done])
      rw [same, sent]
      exact .inl ⟨rfl, rfl⟩
    | ok result =>
      have same : outcome = _ := Operation.bind_of_ok (by rw [sent, done])
      rw [same, sent]
      exact .inr ⟨statement, result, rfl, done, List.prefix_append _ _, rfl, rfl⟩

end TableHandle

end CqlTable
