import CqlTable.Proofs.Handle.Statements
import CqlTable.Proofs.Result.Positions

/-!
# What requests do to the cursor

A request leaves the cursor where it is, puts it at the start of a result with
nothing read, or reads a row and puts it behind that row (`moves_perform`). What
holds of the cursor after any requests follows from that.
-/

namespace CqlTable

namespace Cursor

/-- The cursor after the row at an index is read, if there is one. -/
def read (index : Nat) (cursor : Cursor) : Cursor := if (cursor.row? index).isSome then cursor.past index else cursor

theorem row?_isSome {cursor : Cursor} {index : Nat} : (cursor.row? index).isSome = true ↔
    ∃ result, cursor.retained = some result ∧ index < result.rows.length := by
  rw [row?]
  cases cursor.retained with
  | none => simp
  | some result => simp

end Cursor

namespace TableHandle

variable {W α : Type} (config : Config) (schema : TableSchema) (cluster : Cluster W)

/-! ## Rows as they are delivered -/

/-- A row as it is delivered: where cells did not decode, strict reading fails
    with the error of the first. -/
def delivered (read : MaterializedRow) : Except Fault DecodedRow :=
  match read.errors with
  | [] => .ok read.row
  | error :: _ => if config.strictDecoding then .error (.conversion error) else .ok read.row

/-- What reading the row at an index of a result gives; there may be no such
    row. -/
def rowRead (result : QueryResult) (index : Nat) : Except Fault (Option DecodedRow) :=
  match result.rows[index]? with
  | none => .ok none
  | some cells => (delivered config (materialize result.columnNames cells schema)).map some

theorem delivered_lenient (lenient : config.strictDecoding = false) (read : MaterializedRow) :
    delivered config read = .ok read.row := by
  rw [delivered, lenient]
  cases read.errors with
  | nil => rfl
  | cons error rest => rfl

theorem deliver_result (read : MaterializedRow) (handle : TableHandle W) :
    (deliver config schema read handle).result = delivered config read := by
  rw [deliver, delivered]
  cases read.errors with
  | nil => rfl
  | cons error rest =>
    cases config.strictDecoding with
    | true => rfl
    | false => rfl

theorem deliver_state (read : MaterializedRow) (handle : TableHandle W) :
    (deliver config schema read handle).state = handle := by
  rw [deliver]
  cases read.errors with
  | nil => rfl
  | cons error rest =>
    cases config.strictDecoding with
    | true => rfl
    | false => rfl

theorem rowRead_eq_none_iff {result : QueryResult} {index : Nat} :
    rowRead config schema result index = .ok none ↔ result.rows.length ≤ index := by
  rw [rowRead, ← List.getElem?_eq_none_iff]
  cases result.rows[index]? with
  | none => simp
  | some cells =>
    cases read : delivered config (materialize result.columnNames cells schema) with
    | error fault => simp [Except.map, read]
    | ok row => simp [Except.map, read]

/-! ## The row at an index -/

variable {config schema}

theorem readAt_of_no_row {index : Nat} {handle : TableHandle W} (noRow : handle.cursor.row? index = none) :
    readAt config schema index handle = ⟨.ok none, handle, [], []⟩ := by
  rw [readAt, Operation.state_bind, noRow]
  rfl

theorem readAt_cursor (index : Nat) (handle : TableHandle W) :
    (readAt config schema index handle).state.cursor = handle.cursor.read index := by
  rw [readAt, Operation.state_bind, Cursor.read]
  cases handle.cursor.row? index with
  | none => rfl
  | some row =>
    simp only [moveCursor, Operation.change_bind, Operation.bind_return, deliver_state]
    rfl

theorem readAt_result (index : Nat) (handle : TableHandle W) :
    (readAt config schema index handle).result =
      match handle.cursor.row? index with
      | none => .ok none
      | some (names, cells) => (delivered config (materialize names cells schema)).map some := by
  rw [readAt, Operation.state_bind]
  cases handle.cursor.row? index with
  | none => rfl
  | some row => simp only [moveCursor, Operation.change_bind, Operation.bind_return, deliver_result]

theorem readAt_retained (index : Nat) {handle : TableHandle W} {result : QueryResult}
    (retained : handle.cursor.retained = some result) :
    (readAt config schema index handle).result = rowRead config schema result index := by
  rw [readAt_result, Cursor.row?, retained, Option.bind_some, rowRead]
  cases result.rows[index]? with
  | none => rfl
  | some cells => rfl

theorem readReferenced_of_error {ref : Bytes} {e : ConversionError} (decoded : decodePosition ref = .error e)
    (handle : TableHandle W) : readReferenced config schema ref handle = ⟨.error (.conversion e), handle, [], []⟩ := by
  rw [readReferenced, decoded]
  rfl

theorem readReferenced_of_ok {ref : Bytes} {index : Nat} (decoded : decodePosition ref = .ok index)
    (handle : TableHandle W) : readReferenced config schema ref handle = readAt config schema index handle := by
  rw [readReferenced, decoded]
  rfl

/-! ## Requests that leave the cursor alone -/

section

variable {P : Cursor → Prop}

theorem keeps_onSession (operation : Operation (Session W) α) :
    Operation.Keeps (fun handle => P handle.cursor) (onSession operation) := fun _ holds => holds

theorem keeps_ofExcept (result : Except Fault α) :
    Operation.Keeps (fun handle : TableHandle W => P handle.cursor) (Operation.ofExcept result) :=
  Operation.keeps_of_state fun _ => rfl

theorem keeps_pure (a : α) : Operation.Keeps (fun handle : TableHandle W => P handle.cursor) (pure a) :=
  Operation.keeps_of_state fun _ => rfl

theorem keeps_reference : Operation.Keeps (fun handle : TableHandle W => P handle.cursor) reference := by
  intro handle holds
  rw [reference, Operation.state_bind]
  cases handle.cursor.last with
  | none => exact holds
  | some index => exact holds

variable (config schema)

theorem keeps_runBuilt (statement : Except Fault Statement) :
    Operation.Keeps (fun handle => P handle.cursor) (runBuilt config cluster statement) :=
  (keeps_ofExcept statement).bind fun _ => keeps_onSession _

theorem keeps_create : Operation.Keeps (fun handle => P handle.cursor) (create config schema cluster) :=
  (keeps_onSession _).bind fun _ => (keeps_ofExcept _).bind fun _ =>
    (keeps_onSession _).bind fun _ => Operation.keeps_of_state fun _ => rfl

end

/-- The requests that leave the cursor where it is. -/
def Request.keepsCursor : Request → Bool
  | .create | .openTable | .rename | .write _ | .update _ _ | .delete _ | .reference | .lookUpPrevious | .lookUpLast
  | .estimates | .abilities | .shutdown | .useKeyspace _ => true
  | .close | .drop | .truncate | .startScan _ | .readNext | .readReferenced _ | .endScan | .lookUp _ _ | .lookUpNext
  | .lookUpFirst => false

variable (config schema)

theorem keeps_perform {P : Cursor → Prop} {request : Request} (kept : request.keepsCursor = true) :
    Operation.Keeps (fun handle => P handle.cursor) (perform config schema cluster request) := by
  cases request with
  | create => exact (keeps_create config schema cluster).bind fun _ => keeps_pure _
  | openTable | shutdown | useKeyspace => exact (keeps_onSession _).bind fun _ => keeps_pure _
  | write | update | delete => exact (keeps_runBuilt config cluster _).bind fun _ => keeps_pure _
  | reference => exact keeps_reference.bind fun _ => keeps_pure _
  | rename | lookUpPrevious | lookUpLast => exact keeps_ofExcept _
  | estimates | abilities => exact keeps_pure _
  | _ => cases kept

theorem cursor_of_keeping {request : Request} (kept : request.keepsCursor = true) (handle : TableHandle W) :
    (perform config schema cluster request handle).state.cursor = handle.cursor :=
  keeps_perform (P := (· = handle.cursor)) config schema cluster kept handle rfl

/-! ## What every request does -/

/-- The requests that may read a row. -/
def Request.readsRow : Request → Bool
  | .readNext | .readReferenced _ | .lookUp _ _ | .lookUpNext | .lookUpFirst => true
  | _ => false

/-- A request read the row at an index of a result, which is retained, and that
    is the row read last. -/
structure ReadRow (result : QueryResult) (index : Nat) (request : Request)
    (outcome : Outcome (TableHandle W) Reply) : Prop where
  reads : request.readsRow = true
  bound : index < result.rows.length
  reply : outcome.result = (rowRead config schema result index).map .row
  cursor : outcome.state.cursor = ⟨some result, index + 1, some index⟩

/-- What a request does to the cursor. It stays, it goes to the first row though
    there is none, it begins a result anew, or it passes a row. -/
inductive Moves (before : Cursor) (request : Request) (outcome : Outcome (TableHandle W) Reply) : Prop
  | stays : outcome.state.cursor = before → Moves before request outcome
  | restarts : before.row? 0 = none → outcome.state.cursor = before.atFirst → Moves before request outcome
  | resets {retained} : outcome.state.cursor = Cursor.ofResult retained → Moves before request outcome
  | reads {result index} : ReadRow config schema result index request outcome → Moves before request outcome

variable {config schema} {request : Request} {handle : TableHandle W}

theorem Moves.congr {before : Cursor} {one other : Outcome (TableHandle W) Reply}
    (moves : Moves config schema before request one) (result : other.result = one.result)
    (state : other.state = one.state) : Moves config schema before request other := by
  cases moves with
  | stays same => exact .stays (by rw [state, same])
  | restarts noRow same => exact .restarts noRow (by rw [state, same])
  | resets same => exact .resets (by rw [state, same])
  | reads read => exact .reads ⟨read.reads, read.bound, by rw [result, read.reply], by rw [state, read.cursor]⟩

/-- A request that reads the row at an index does so, or there is none and the
    cursor stays. -/
theorem readRow_or_stays (read : Operation (TableHandle W) (Option DecodedRow)) {index : Nat}
    {handle moved : TableHandle W} (kind : request.readsRow = true)
    (same : read handle = readAt config schema index moved) :
    let outcome := (do return .row (← read) : Operation (TableHandle W) Reply) handle
    (∃ result, ReadRow config schema result index request outcome) ∨
      moved.cursor.row? index = none ∧ outcome.state.cursor = moved.cursor := by
  intro outcome
  have replied : outcome = _ := Operation.bind_return read Reply.row handle
  rw [replied, same]
  by_cases found : (moved.cursor.row? index).isSome = true
  · obtain ⟨result, retained, bound⟩ := Cursor.row?_isSome.mp found
    refine .inl ⟨result, kind, bound, by rw [readAt_retained index retained], ?_⟩
    show (readAt config schema index moved).state.cursor = _
    rw [readAt_cursor, Cursor.read, if_pos found, Cursor.past, retained]
  · have noRow := Option.not_isSome_iff_eq_none.mp found
    rw [readAt_of_no_row noRow]
    exact .inr ⟨noRow, rfl⟩

theorem moves_read (read : Operation (TableHandle W) (Option DecodedRow)) {index : Nat}
    (kind : request.readsRow = true) (same : read handle = readAt config schema index handle) :
    Moves config schema handle.cursor request
      ((do return .row (← read) : Operation (TableHandle W) Reply) handle) := by
  rcases readRow_or_stays read kind same with ⟨result, read⟩ | ⟨_, stays⟩
  · exact .reads read
  · exact .stays stays

theorem conclude_lookUp (parts : List Value) (map : Option Double) (result : QueryResult) (later : TableHandle W) :
    Request.conclude config schema (.lookUp parts map) result later =
      (do return .row (← readNext config schema) : Operation (TableHandle W) Reply)
        { later with cursor := Cursor.ofResult (some result) } := rfl

theorem moves_conclude {built : Except Fault Statement} (sent : request.statement? config schema = some built)
    (result : QueryResult) (later : TableHandle W) :
    Moves config schema later.cursor request (request.conclude config schema result later) := by
  cases request with
  | write | update | delete => exact .stays rfl
  | drop | truncate | startScan => exact .resets rfl
  | lookUp parts map =>
    let moved : TableHandle W := { later with cursor := Cursor.ofResult (some result) }
    have kind : (Request.lookUp parts map).readsRow = true := rfl
    have read : readNext config schema moved = readAt config schema 0 moved := rfl
    rw [conclude_lookUp]
    rcases readRow_or_stays _ kind read with ⟨result, read⟩ | ⟨_, stays⟩
    · exact .reads read
    · exact .resets stays
  | _ => cases sent

variable (config schema)

theorem moves_perform (request : Request) (handle : TableHandle W) :
    Moves config schema handle.cursor request (perform config schema cluster request handle) := by
  cases kept : request.keepsCursor with
  | true => exact .stays (cursor_of_keeping config schema cluster kept handle)
  | false =>
    cases sent : request.statement? config schema with
    | some built =>
      rw [perform_of_statement cluster sent]
      rcases runBuilt_bind_cases config cluster built (request.conclude config schema) handle with
        ⟨_, stays⟩ | ⟨statement, result, _, _, _, reply, state⟩
      · exact .stays stays
      · exact (moves_conclude sent result (run config cluster statement handle).state).congr reply state
    | none =>
      cases request with
      | close | endScan => exact .resets (show _ = Cursor.ofResult none from rfl)
      | startScan fresh =>
        cases fresh with
        | false => exact .resets rfl
        | true => cases sent
      | readNext | lookUpNext => exact moves_read (readNext config schema) rfl rfl
      | lookUpFirst =>
        have read : readFirst config schema handle =
            readAt config schema 0 { handle with cursor := handle.cursor.atFirst } := rfl
        have kind : Request.lookUpFirst.readsRow = true := rfl
        rcases readRow_or_stays _ kind read with ⟨result, read⟩ | ⟨noRow, restarts⟩
        · exact .reads read
        · exact .restarts noRow restarts
      | readReferenced ref =>
        cases decoded : decodePosition ref with
        | error e =>
          rw [perform, Operation.bind_return, readReferenced_of_error decoded]
          exact .stays rfl
        | ok index => exact moves_read (readReferenced config schema ref) rfl (readReferenced_of_ok decoded handle)
      | drop | truncate | lookUp => cases sent
      | _ => cases kept

end TableHandle

end CqlTable
