import CqlTable.Proofs.Conversion.Basic
import CqlTable.Proofs.Handle.Reading
import CqlTable.Proofs.Handle.Sending
import CqlTable.Proofs.Result.Columns
import CqlTable.Proofs.Session.Records

/-!
# Strict and lenient reading

Two handles that differ only in how they take cells that do not decode send the
same statements and stand at the same row, whatever they are asked to do. They
differ in the reply and in the log of a request that comes to a row with such
cells, and in nothing else (`strict_lenient_agree`).
-/

namespace CqlTable

/-- The configuration with strict or with lenient reading. -/
def Config.reading (strict : Bool) (config : Config) : Config := { config with strictDecoding := strict }

namespace TableHandle

variable {W : Type} (config : Config) (schema : TableSchema) (cluster : Cluster W)

/-! ## Rows that requests come to -/

/-- The row that a request comes to, with the names of its columns: a row of the
    retained result, or the first of the answer to the query of a look-up. -/
def Request.row? (handle : TableHandle W) : Request → Option (List String × List String)
  | .readNext | .lookUpNext => handle.cursor.row? handle.cursor.next
  | .lookUpFirst => handle.cursor.row? 0
  | .readReferenced ref =>
    match decodePosition ref with
    | .error _ => none
    | .ok index => handle.cursor.row? index
  | .lookUp parts map =>
    match (runBuilt config cluster ((config.dialect.keyCondition schema parts map).map fun condition =>
      .selectFrom schema condition config.allowFiltering) handle).result with
    | .error _ => none
    | .ok result => (Cursor.ofResult (some result)).row? 0
  | _ => none

/-- What strict and lenient reading make of a request. Without a row, and for a
    row whose cells all decode, it is the same. For any other row the strict
    reply is the error of the first column that fails; the lenient one is the
    row with null in the columns that fail, and a warning for each of them. -/
inductive Agree : Option (List String × List String) → (strict lenient : Outcome (TableHandle W) Reply) → Prop
  | noRow {outcome} (unread : ∀ row, outcome.result ≠ .ok (.row (some row))) : Agree none outcome outcome
  | decoded {names cells outcome} (clean : failuresOf schema names cells = [])
      (delivers : outcome.result = .ok (.row (some (rowOf schema names cells)))) :
      Agree (some (names, cells)) outcome outcome
  | failing {names cells error rest strict lenient} (failures : failuresOf schema names cells = error :: rest)
      (fails : strict.result = .error (.conversion error))
      (delivers : lenient.result = .ok (.row (some (rowOf schema names cells))))
      (state : lenient.state = strict.state) (calls : lenient.calls = strict.calls)
      (warns : lenient.logs = strict.logs ++ (error :: rest).map (nullRecord schema)) :
      Agree (some (names, cells)) strict lenient

section

variable {schema} {row : Option (List String × List String)} {strict lenient : Outcome (TableHandle W) Reply}

theorem Agree.effects (agree : Agree schema row strict lenient) :
    lenient.state = strict.state ∧ lenient.calls = strict.calls := by
  cases agree with
  | noRow | decoded => exact ⟨rfl, rfl⟩
  | failing _ _ _ state calls => exact ⟨state, calls⟩

/-- What was done before a row is read is the same for both. -/
theorem Agree.after (agree : Agree schema row strict lenient) (calls : List ClientCall) (logs : List LogRecord) :
    Agree schema row ⟨strict.result, strict.state, calls ++ strict.calls, logs ++ strict.logs⟩
      ⟨lenient.result, lenient.state, calls ++ lenient.calls, logs ++ lenient.logs⟩ := by
  cases agree with
  | noRow unread => exact .noRow unread
  | decoded clean delivers => exact .decoded clean delivers
  | failing failures fails delivers state same warns =>
    exact .failing failures fails delivers state (by rw [same]) (by rw [warns, List.append_assoc])

end

/-! ## Reading a row -/

theorem readAt_of_row {index : Nat} {handle : TableHandle W} {names cells : List String}
    (found : handle.cursor.row? index = some (names, cells)) :
    readAt config schema index handle =
      (do return some (← deliver config schema ⟨rowOf schema names cells, failuresOf schema names cells⟩) :
        Operation (TableHandle W) (Option DecodedRow)) { handle with cursor := handle.cursor.past index } := by
  rw [readAt, Operation.state_bind, found, ← materialize_eq]
  rfl

theorem deliver_warns (row : DecodedRow) (error : ConversionError) (rest : List ConversionError)
    (handle : TableHandle W) :
    deliver (config.reading false) schema ⟨row, error :: rest⟩ handle =
      ⟨.ok row, handle, [], (error :: rest).map (nullRecord schema)⟩ :=
  Operation.bind_return (Operation.records ((error :: rest).map (nullRecord schema))) (fun _ => row) handle

theorem agree_readAt (index : Nat) (handle : TableHandle W) :
    Agree schema (handle.cursor.row? index)
      ((do return .row (← readAt (config.reading true) schema index) : Operation (TableHandle W) Reply) handle)
      ((do return .row (← readAt (config.reading false) schema index) : Operation (TableHandle W) Reply) handle) := by
  simp only [Operation.bind_return]
  cases found : handle.cursor.row? index with
  | none =>
    rw [readAt_of_no_row found, readAt_of_no_row found]
    exact .noRow (by rintro row ⟨⟩)
  | some row =>
    obtain ⟨names, cells⟩ := row
    rw [readAt_of_row _ _ found, readAt_of_row _ _ found, Operation.bind_return, Operation.bind_return]
    cases failures : failuresOf schema names cells with
    | nil => exact .decoded failures rfl
    | cons error rest =>
      rw [deliver_warns]
      exact .failing failures rfl rfl rfl rfl rfl

/-! ## Every request -/

/-- A request that reads no row replies with none. -/
theorem unread_of_not_readsRow {request : Request} (other : request.readsRow = false) (handle : TableHandle W)
    (row : DecodedRow) : (perform config schema cluster request handle).result ≠ .ok (.row (some row)) := by
  have replies {α : Type} {f : α → Reply} (never : ∀ a, f a ≠ .row (some row))
      (operation : Operation (TableHandle W) α) :
      ((do return f (← operation) : Operation (TableHandle W) Reply) handle).result ≠ .ok (.row (some row)) := by
    rw [Operation.bind_return]
    intro replied
    obtain ⟨a, -, same⟩ := map_eq_ok.mp replied
    exact never a same
  cases request with
  | readNext | readReferenced | lookUp | lookUpNext | lookUpFirst => cases other
  | rename | lookUpPrevious | lookUpLast | estimates | abilities => rintro ⟨⟩
  | reference => exact replies nofun reference
  | _ => exact replies (f := fun _ => .done) nofun _

theorem agree_perform (request : Request) (handle : TableHandle W) :
    Agree schema (request.row? config schema cluster handle)
      (perform (config.reading true) schema cluster request handle)
      (perform (config.reading false) schema cluster request handle) := by
  cases request with
  | readNext | lookUpNext => exact agree_readAt config schema handle.cursor.next handle
  | lookUpFirst => exact agree_readAt config schema 0 { handle with cursor := handle.cursor.atFirst }
  | readReferenced ref =>
    simp only [perform, Request.row?, Operation.bind_return]
    cases decoded : decodePosition ref with
    | error e =>
      rw [readReferenced_of_error decoded, readReferenced_of_error decoded]
      exact .noRow (by rintro row ⟨⟩)
    | ok index =>
      rw [readReferenced_of_ok decoded, readReferenced_of_ok decoded]
      simpa only [Operation.bind_return] using agree_readAt config schema index handle
  | lookUp parts map =>
    -- The query is the same for both, and so is all that is done before the row is read.
    let built := (config.dialect.keyCondition schema parts map).map fun condition =>
      Statement.selectFrom schema condition config.allowFiltering
    have steps (strict : Bool) : perform (config.reading strict) schema cluster (.lookUp parts map) handle =
        (runBuilt config cluster built >>=
          Request.conclude (config.reading strict) schema (.lookUp parts map)) handle :=
      perform_of_statement cluster rfl handle
    have comesTo : Request.row? config schema cluster handle (.lookUp parts map) =
        match (runBuilt config cluster built handle).result with
        | .error _ => none
        | .ok result => (Cursor.ofResult (some result)).row? 0 := rfl
    rw [steps, steps, comesTo]
    cases done : (runBuilt config cluster built handle).result with
    | error fault =>
      rw [Operation.bind_of_error done, Operation.bind_of_error done]
      exact .noRow (by rintro row ⟨⟩)
    | ok result =>
      let answered : TableHandle W :=
        { (runBuilt config cluster built handle).state with cursor := Cursor.ofResult (some result) }
      have read : Agree schema (answered.cursor.row? 0)
          ((do return .row (← readNext (config.reading true) schema) : Operation (TableHandle W) Reply) answered)
          ((do return .row (← readNext (config.reading false) schema) : Operation (TableHandle W) Reply) answered) :=
        agree_readAt config schema 0 answered
      rw [Operation.bind_of_ok done, Operation.bind_of_ok done, conclude_lookUp, conclude_lookUp]
      exact read.after _ _
  | _ => exact .noRow (unread_of_not_readsRow (config.reading true) schema cluster rfl handle)

/-! ## Warnings -/

/-- The operation writes no warning about a cell. -/
def Unwarned {α : Type} (operation : Operation (TableHandle W) α) : Prop :=
  operation.Writes fun log => ∀ error, log ≠ nullRecord schema error

section

variable {α : Type}

theorem unwarned_of_silent {operation : Operation (TableHandle W) α} (silent : ∀ handle, (operation handle).logs = []) :
    Unwarned schema operation :=
  Operation.writes_of_silent silent

/-- What a session writes has its own signature. -/
theorem unwarned_onSession {operation : Operation (Session W) α} (signs : Session.Signs operation) :
    Unwarned schema (onSession operation) := by
  rintro handle log inside error rfl
  have signed := signs handle.session _ inside
  simp [nullRecord, writer, Session.writer] at signed

/-- Making a reply of a result writes nothing. -/
theorem Unwarned.reply {operation : Operation (TableHandle W) α} (unwarned : Unwarned schema operation)
    (f : α → Reply) : Unwarned schema (do return f (← operation)) :=
  unwarned.bind fun _ => unwarned_of_silent schema fun _ => rfl

end

theorem unwarned_run (statement : Statement) : Unwarned schema (run config cluster statement) :=
  unwarned_onSession schema
    ((Session.signs_connect cluster config).bind fun _ => Session.signs_execute cluster config _)

theorem unwarned_runBuilt (statement : Except Fault Statement) :
    Unwarned schema (runBuilt config cluster statement) :=
  (unwarned_of_silent schema fun _ => rfl).bind fun _ => unwarned_run config schema cluster _

theorem unwarned_runReleasing (statement : Statement) : Unwarned schema (runReleasing config cluster statement) :=
  (unwarned_run config schema cluster statement).bind fun _ => unwarned_of_silent schema fun _ => rfl

theorem unwarned_query (condition : String) : Unwarned schema (query config schema cluster condition) :=
  (unwarned_run config schema cluster _).bind fun _ => unwarned_of_silent schema fun _ => rfl

theorem signs_prepare : Session.Signs (prepare config schema cluster) :=
  (Session.signs_connect cluster config).bind fun _ =>
    (Session.signs_execute cluster config _).bind fun _ => Session.signs_useKeyspace cluster config _

theorem unwarned_create : Unwarned schema (create config schema cluster) := by
  have created : ∀ error, createdRecord schema ≠ nullRecord schema error := by
    intro error same
    cases congrArg LogRecord.level same
  have executes (cql : String) : Unwarned schema (onSession (Session.execute cluster config cql)) :=
    unwarned_onSession schema (Session.signs_execute cluster config cql)
  exact (unwarned_onSession schema (signs_prepare config schema cluster)).bind fun _ =>
    (unwarned_of_silent schema fun _ => rfl).bind fun _ => (executes _).bind fun _ => Operation.writes_record created

theorem unwarned_readAt (index : Nat) :
    Unwarned schema (readAt (config.reading true) schema index : Operation (TableHandle W) _) := by
  refine unwarned_of_silent schema fun handle => ?_
  cases found : handle.cursor.row? index with
  | none => rw [readAt_of_no_row found]
  | some row =>
    obtain ⟨names, cells⟩ := row
    rw [readAt_of_row _ _ found, Operation.bind_return]
    cases failuresOf schema names cells <;> rfl

theorem unwarned_readNext : Unwarned schema (readNext (config.reading true) schema : Operation (TableHandle W) _) :=
  fun handle => unwarned_readAt config schema handle.cursor.next handle

/-- Strict reading never warns about a cell. -/
theorem unwarned_perform (request : Request) :
    Unwarned schema (perform (config.reading true) schema cluster request) := by
  cases request with
  | create => exact (unwarned_create _ schema cluster).reply schema _
  | openTable => exact (unwarned_onSession schema (Session.signs_connect cluster _)).reply schema _
  | shutdown => exact (unwarned_onSession schema (Session.signs_shutdown cluster)).reply schema _
  | useKeyspace keyspace =>
    exact (unwarned_onSession schema (Session.signs_useKeyspace cluster _ keyspace)).reply schema _
  | drop | truncate => exact (unwarned_runReleasing _ schema cluster _).reply schema _
  | write | update | delete => exact (unwarned_runBuilt _ schema cluster _).reply schema _
  | startScan fresh =>
    cases fresh with
    | true => exact (unwarned_query _ schema cluster _).reply schema _
    | false => exact unwarned_of_silent schema fun _ => rfl
  | readNext | lookUpNext => exact (unwarned_readNext config schema).reply schema _
  | lookUpFirst =>
    have moves : Unwarned schema (moveCursor Cursor.atFirst : Operation (TableHandle W) Unit) :=
      unwarned_of_silent schema fun _ => rfl
    exact Unwarned.reply schema (moves.bind fun _ => unwarned_readNext config schema) _
  | readReferenced ref =>
    have decodes : Unwarned schema (Operation.ofExcept (Conversion.orFault (decodePosition ref)) :
        Operation (TableHandle W) Nat) := unwarned_of_silent schema fun _ => rfl
    exact Unwarned.reply schema (decodes.bind fun index => unwarned_readAt config schema index) _
  | lookUp parts map =>
    have conditions : Unwarned schema (Operation.ofExcept
        ((config.reading true).dialect.keyCondition schema parts map) : Operation (TableHandle W) String) :=
      unwarned_of_silent schema fun _ => rfl
    exact Unwarned.reply schema (conditions.bind fun _ =>
      (unwarned_query _ schema cluster _).bind fun _ => unwarned_readNext config schema) _
  | reference =>
    refine Unwarned.reply schema (unwarned_of_silent schema fun handle => ?_) _
    rw [reference, Operation.state_bind]
    cases handle.cursor.last <;> rfl
  | _ => exact unwarned_of_silent schema fun _ => rfl

/-- After the same requests, strict and lenient reading have sent the same
    statements and left the same state, whatever clients answered. They agree on
    the next request, which has the same effects in both, and strict reading
    writes no warning about a cell. -/
theorem strict_lenient_agree (earlier : List Request) (request : Request) (handle : TableHandle W) :
    let strict := perform (config.reading true) schema cluster
    let lenient := perform (config.reading false) schema cluster
    let before := (Operation.run strict earlier handle).state
    ((Operation.run lenient earlier handle).state = before ∧
      (Operation.run lenient earlier handle).calls = (Operation.run strict earlier handle).calls) ∧
    ((lenient request before).state = (strict request before).state ∧
      (lenient request before).calls = (strict request before).calls) ∧
    Agree schema (request.row? config schema cluster before) (strict request before) (lenient request before) ∧
    ∀ error, nullRecord schema error ∉ (strict request before).logs := by
  intro strict lenient before
  refine ⟨Operation.run_congr (fun request handle => (agree_perform config schema cluster request handle).effects)
    earlier handle, (agree_perform config schema cluster request before).effects,
    agree_perform config schema cluster request before, ?_⟩
  intro error warned
  exact unwarned_perform config schema cluster request before _ warned error rfl

end TableHandle

end CqlTable
