import CqlTable.Proofs.Conversion.Basic
import CqlTable.Proofs.Handle.Failures
import CqlTable.Proofs.Handle.Scan
import Mathlib.Data.List.Induction

/-!
# References to rows

A reference is given for the row that was read last, and it says no more than
the index of that row. As long as a handle retains the same rows it stands for
the same row (`reference_reads_again`); after the next query it stands for
whatever row has that index then (`stale_reference_iff`).
-/

namespace CqlTable

namespace TableHandle

variable {W : Type} (config : Config) (schema : TableSchema) (cluster : Cluster W)

/-! ## Rows that stay -/

/-- A request leaves the retained rows alone: it is not one to release them, and
    no client answered a statement of it after which there are other rows or
    none. -/
def LeavesRows (request : Request) (outcome : Outcome (TableHandle W) Reply) : Prop :=
  match request with
  | .close | .endScan => False
  | .drop | .truncate | .startScan _ | .lookUp _ _ =>
    ∀ statement, request.statement? config schema = some (.ok statement) → ¬ Answered statement outcome.calls
  | _ => True

variable {config schema}

theorem retained_readAt (index : Nat) (handle : TableHandle W) :
    (readAt config schema index handle).state.cursor.retained = handle.cursor.retained := by
  rw [readAt_cursor, Cursor.read]
  split
  · rfl
  · rfl

theorem retained_of_unanswered {request : Request} {handle : TableHandle W} {built : Except Fault Statement}
    (sent : request.statement? config schema = some built)
    (unanswered : ∀ statement, request.statement? config schema = some (.ok statement) →
      ¬ Answered statement (perform config schema cluster request handle).calls) :
    (perform config schema cluster request handle).state.cursor.retained = handle.cursor.retained := by
  have stays := (fails_of_unanswered cluster sent fun statement same => unanswered statement (same ▸ sent)).2
  rw [stays]

theorem retained_of_leavesRows {request : Request} {handle : TableHandle W}
    (leaves : LeavesRows config schema request (perform config schema cluster request handle)) :
    (perform config schema cluster request handle).state.cursor.retained = handle.cursor.retained := by
  cases kept : request.keepsCursor with
  | true => rw [cursor_of_keeping config schema cluster kept handle]
  | false =>
    cases request with
    | close | endScan => exact leaves.elim
    | drop | truncate | lookUp => exact retained_of_unanswered cluster rfl leaves
    | startScan fresh =>
      cases fresh with
      | false => rfl
      | true => exact retained_of_unanswered cluster rfl leaves
    | readNext | lookUpNext =>
      rw [perform, Operation.bind_return]
      exact retained_readAt handle.cursor.next handle
    | lookUpFirst =>
      rw [perform, Operation.bind_return]
      exact retained_readAt 0 { handle with cursor := handle.cursor.atFirst }
    | readReferenced ref =>
      rw [perform, Operation.bind_return]
      cases decoded : decodePosition ref with
      | error e => rw [readReferenced_of_error decoded]
      | ok index =>
        rw [readReferenced_of_ok decoded]
        exact retained_readAt index handle
    | _ => cases kept

theorem retained_of_run {requests : List Request} {handle : TableHandle W}
    (leave : ∀ step ∈ (Operation.run (perform config schema cluster) requests handle).steps,
      LeavesRows config schema step.1 step.2) :
    (Operation.run (perform config schema cluster) requests handle).state.cursor.retained = handle.cursor.retained := by
  refine Operation.run_keeps (P := fun later : TableHandle W => later.cursor.retained = handle.cursor.retained)
    (Q := fun step => LeavesRows config schema step.1 step.2) ?_ leave rfl
  intro request before leaves same
  rw [retained_of_leavesRows cluster leaves, same]

/-! ## The row read last -/

theorem Moves.last_cases {request : Request} {before : Cursor} {outcome : Outcome (TableHandle W) Reply}
    (moves : Moves config schema before request outcome) :
    (outcome.state.cursor.retained = before.retained ∧ outcome.state.cursor.last = before.last) ∨
      outcome.state.cursor.last = none ∨ ∃ result index, ReadRow config schema result index request outcome := by
  cases moves with
  | stays same => exact .inl (by rw [same]; exact ⟨rfl, rfl⟩)
  | restarts _ same => exact .inl (by rw [same]; exact ⟨rfl, rfl⟩)
  | resets same => exact .inr (.inl (by rw [same]; rfl))
  | reads read => exact .inr (.inr ⟨_, _, read⟩)

variable (config schema)

/-- Some request of a run read the row at an index of a result, and since then
    neither the retained rows nor the row read last have changed. -/
structure LastRead (requests : List Request) (start : TableHandle W) (result : QueryResult) (index : Nat)
    (reading : Outcome (TableHandle W) Reply) : Prop where
  since : ∃ first request rest, requests = first ++ request :: rest ∧
    reading = perform config schema cluster request
      (Operation.run (perform config schema cluster) first start).state ∧
    ReadRow config schema result index request reading ∧
    ∀ step ∈ (Operation.run (perform config schema cluster) rest reading.state).steps,
      step.2.state.cursor.retained = some result ∧ step.2.state.cursor.last = some index
  retained : (Operation.run (perform config schema cluster) requests start).state.cursor.retained = some result
  last : (Operation.run (perform config schema cluster) requests start).state.cursor.last = some index

section

variable {config schema cluster} {requests : List Request} {start : TableHandle W} {result : QueryResult} {index : Nat}
  {reading : Outcome (TableHandle W) Reply} {request : Request}

/-- A request after which the rows and the row read last are what they were. -/
theorem LastRead.append (lastRead : LastRead config schema cluster requests start result index reading)
    (kept :
      let before := (Operation.run (perform config schema cluster) requests start).state
      let after := (perform config schema cluster request before).state
      after.cursor.retained = before.cursor.retained ∧ after.cursor.last = before.cursor.last) :
    LastRead config schema cluster (requests ++ [request]) start result index reading := by
  obtain ⟨⟨first, earlier, rest, rfl, same, read, each⟩, retained, last⟩ := lastRead
  obtain ⟨rows, row⟩ := kept
  refine ⟨⟨first, earlier, rest ++ [request], by simp, same, read, ?_⟩, ?_, ?_⟩
  · have state : (Operation.run (perform config schema cluster) rest reading.state).state =
        (Operation.run (perform config schema cluster) (first ++ earlier :: rest) start).state := by
      rw [Operation.run_append, same]
      rfl
    rw [Operation.run_append, state]
    intro step inside
    rcases List.mem_append.mp inside with inside | inside
    · exact each step inside
    · rw [List.mem_singleton.mp inside]
      exact ⟨rows.trans retained, row.trans last⟩
  · rw [Operation.run_append_singleton_state, rows, retained]
  · rw [Operation.run_append_singleton_state, row, last]

theorem lastRead_of_read
    (read : ReadRow config schema result index request (perform config schema cluster request
      (Operation.run (perform config schema cluster) requests start).state)) :
    LastRead config schema cluster (requests ++ [request]) start result index (perform config schema cluster request
      (Operation.run (perform config schema cluster) requests start).state) := by
  refine ⟨⟨requests, request, [], rfl, rfl, read, by simp [Operation.run]⟩, ?_, ?_⟩
  · rw [Operation.run_append_singleton_state, read.cursor]
  · rw [Operation.run_append_singleton_state, read.cursor]

variable (config schema cluster)

theorem exists_lastRead (requests : List Request) (unread : start.cursor.last = none)
    (last : (Operation.run (perform config schema cluster) requests start).state.cursor.last = some index) :
    ∃ result reading, LastRead config schema cluster requests start result index reading := by
  -- The induction takes the last request off: what it does not change was so before it.
  induction requests using List.reverseRecOn with
  | nil =>
    have read : start.cursor.last = some index := last
    rw [unread] at read
    cases read
  | append_singleton requests request ih =>
    rw [Operation.run_append_singleton_state] at last
    rcases (moves_perform config schema cluster request
      (Operation.run (perform config schema cluster) requests start).state).last_cases with
      kept | none | ⟨result, other, read⟩
    · obtain ⟨result, reading, lastRead⟩ := ih (kept.2 ▸ last)
      exact ⟨result, reading, lastRead.append kept⟩
    · rw [none] at last
      cases last
    · rw [read.cursor] at last
      cases last
      exact ⟨result, _, lastRead_of_read read⟩

end

/-! ## What references stand for -/

variable {config schema}

theorem perform_reference {handle : TableHandle W} {index : Nat} (last : handle.cursor.last = some index)
    (small : index ≤ greatestPosition) :
    (perform config schema cluster .reference handle).result = .ok (.reference (bigEndian positionWidth index)) := by
  rw [perform, Operation.bind_return, reference, Operation.state_bind, last]
  show ((encodePosition (Double.ofNat index)).orFault).map Reply.reference = _
  rw [encodePosition_ofNat small]
  rfl

/-- A reference is given for the row that was read last. -/
theorem last_of_reference {handle : TableHandle W} {ref : Bytes}
    (given : (perform config schema cluster .reference handle).result = .ok (.reference ref)) :
    ∃ index, handle.cursor.last = some index ∧ decodePosition ref = .ok index := by
  rw [perform, Operation.bind_return, reference, Operation.state_bind] at given
  cases last : handle.cursor.last with
  | none =>
    rw [last] at given
    cases given
  | some index =>
    rw [last] at given
    have replied : (Conversion.orFault (encodePosition (Double.ofNat index))).map Reply.reference =
        .ok (.reference ref) := given
    refine ⟨index, rfl, decodePosition_encodePosition ?_⟩
    obtain ⟨bytes, encoded, same⟩ := map_eq_ok.mp replied
    cases same
    exact orFault_eq_ok.mp encoded

variable (config schema)

theorem perform_readReferenced {ref : Bytes} {index : Nat} {result : QueryResult} {handle : TableHandle W}
    (decoded : decodePosition ref = .ok index) (retained : handle.cursor.retained = some result) :
    (perform config schema cluster (.readReferenced ref) handle).result =
        (rowRead config schema result index).map .row ∧
      (perform config schema cluster (.readReferenced ref) handle).state.cursor = handle.cursor.read index := by
  rw [perform, Operation.bind_return, readReferenced_of_ok decoded]
  exact ⟨congrArg (Except.map Reply.row) (readAt_retained index retained), readAt_cursor index handle⟩

theorem cursor_of_run_keeping {requests : List Request} (keep : ∀ request ∈ requests, request.keepsCursor = true)
    (handle : TableHandle W) :
    (Operation.run (perform config schema cluster) requests handle).state.cursor = handle.cursor := by
  refine Operation.run_preserves (P := fun (later : TableHandle W) _ => later.cursor = handle.cursor) ?_ rfl
  intro request inside before _ same
  rw [cursor_of_keeping config schema cluster (keep request inside), same]

/-- A reference that a handle gives stands for the row that was read last. However
    many requests then leave the retained rows alone, reading what it stands for
    gives what reading that row gave, the row or the fault of its first cell that
    does not decode; and the next row that is read is the one behind it, if there
    is one. -/
theorem reference_reads_again (earlier : List Request) (session : Session W) {ref : Bytes}
    (given : (perform config schema cluster .reference
      (Operation.run (perform config schema cluster) earlier ⟨session, .released⟩).state).result =
        .ok (.reference ref)) :
    ∃ result index reading, LastRead config schema cluster earlier ⟨session, .released⟩ result index reading ∧
      ∀ later between next,
        let before := Operation.run (perform config schema cluster) later
          (Operation.run (perform config schema cluster) earlier ⟨session, .released⟩).state
        let again := perform config schema cluster (.readReferenced ref) before.state
        let after := Operation.run (perform config schema cluster) between again.state
        (∀ step ∈ before.steps, LeavesRows config schema step.1 step.2) →
        (∀ request ∈ between, request.keepsCursor = true) → next.readsNext = true →
          again.result = reading.result ∧
            (perform config schema cluster next after.state).result =
              (rowRead config schema result (index + 1)).map .row := by
  obtain ⟨index, last, decoded⟩ := last_of_reference cluster given
  obtain ⟨result, reading, lastRead⟩ := exists_lastRead config schema cluster earlier rfl last
  refine ⟨result, index, reading, lastRead, ?_⟩
  intro later between next before again after leave keep reads
  obtain ⟨_, _, _, _, _, read, _⟩ := lastRead.since
  have retained : before.state.cursor.retained = some result := (retained_of_run cluster leave).trans lastRead.retained
  obtain ⟨reply, cursor⟩ := perform_readReferenced config schema cluster decoded retained
  refine ⟨reply.trans read.reply.symm, ?_⟩
  have found : (before.state.cursor.row? index).isSome = true := Cursor.row?_isSome.mpr ⟨result, retained, read.bound⟩
  have moved : after.state.cursor = before.state.cursor.past index :=
    (cursor_of_run_keeping config schema cluster keep again.state).trans (cursor.trans (if_pos found))
  have place : after.state.cursor.next = index + 1 := by rw [moved]; rfl
  rw [perform_eq_readNext config schema cluster reads, Operation.bind_return, ← place]
  exact congrArg (Except.map Reply.row) (readAt_retained _ (by rw [moved]; exact retained))

/-- Strict reading fails at a row once more by its reference, and goes on behind
    it, after a drop is refused, the next row is read and another is written. -/
theorem reference_reads_fault_again :
    let config : Config := ⟨["10.0.0.1"], 9042, "cqlbridge", none, false, true, 1, "datacenter1", none, none,
      10000, 10000, .local, true, false⟩
    let schema : TableSchema := ⟨"shop", "t", [⟨"id", .integer .int, true, .regular⟩]⟩
    let answers : Script :=
      ⟨[], [], [⟨"SELECT", none, Double.ofNat 0, .ok ⟨["id"], [[.text "1"], [.text "x"], [.text "3"]]⟩⟩,
        ⟨"DROP", none, Double.ofNat 0, .error (.response "refused")⟩], Double.ofNat 0⟩
    let history := Operation.run (perform config schema Script.cluster)
    let earlier : List Request := [.startScan true, .readNext, .readNext]
    let later : List Request := [.drop, .readNext, .write [("id", .scalar (.number (Double.ofNat 4)))]]
    let given := (history earlier (start answers)).state
    let again := perform config schema Script.cluster (.readReferenced (bigEndian positionWidth 1))
      (history later given).state
    (∃ reading, LastRead config schema Script.cluster earlier (start answers) ⟨["id"], [["1"], ["x"], ["3"]]⟩ 1 reading ∧
        again.result = reading.result) ∧
      again.result.isOk = false ∧
      (perform config schema Script.cluster .readNext again.state).result =
        .ok (.row (some [("id", some (.number (Double.ofNat 3)))])) := by
  intro config schema answers history earlier later given again
  have cursor : given.cursor = ⟨some ⟨["id"], [["1"], ["x"], ["3"]]⟩, 2, some 1⟩ := by decide +kernel
  have referred : (perform config schema Script.cluster .reference given).result =
      .ok (.reference (bigEndian positionWidth 1)) := perform_reference Script.cluster (by rw [cursor]) (by decide)
  obtain ⟨result, index, reading, lastRead, resolves⟩ :=
    reference_reads_again config schema Script.cluster earlier (Session.start answers) referred
  have same : (Operation.run (perform config schema Script.cluster) earlier ⟨Session.start answers, .released⟩).state =
    given := rfl
  have retained := lastRead.retained
  have last := lastRead.last
  rw [same, cursor] at retained last
  cases retained
  cases last
  have drop : (perform config schema Script.cluster .drop given).calls =
      [.execute 0 "DROP TABLE IF EXISTS shop.t" (some (.response "refused"))] := by decide +kernel
  have leave : ∀ step ∈ (history later given).steps, LeavesRows config schema step.1 step.2 := by
    refine List.forall_mem_cons.mpr ⟨?_, List.forall_mem_cons.mpr ⟨trivial, List.forall_mem_singleton.mpr trivial⟩⟩
    rintro statement _ ⟨n, answered⟩
    rw [drop] at answered
    simp at answered
  have reads := resolves later [] .readNext
  rw [same] at reads
  obtain ⟨repeats, next⟩ := reads leave (by simp) rfl
  refine ⟨⟨reading, lastRead, repeats⟩, ?_, next⟩
  obtain ⟨_, _, _, _, _, read, _⟩ := lastRead.since
  rw [repeats, read.reply]
  rfl

/-! ## After a query -/

/-- The requests whose answer a handle retains. -/
def Request.isQuery : Request → Bool
  | .startScan fresh => fresh
  | .lookUp _ _ => true
  | _ => false

/-- A query that succeeds leaves its answer retained. -/
theorem query_answer {query : Request} (isQuery : query.isQuery = true) {handle : TableHandle W}
    (done : (perform config schema cluster query handle).result.isOk = true) :
    ∃ statement result, query.statement? config schema = some (.ok statement) ∧
      (run config cluster statement handle).result = .ok result ∧
      (perform config schema cluster query handle).state.cursor.retained = some result := by
  obtain ⟨built, sent⟩ : ∃ built, query.statement? config schema = some built := by
    cases query with
    | lookUp parts map => exact ⟨_, rfl⟩
    | startScan fresh =>
      cases fresh with
      | true => exact ⟨_, rfl⟩
      | false => cases isQuery
    | _ => cases isQuery
  rw [perform_of_statement cluster sent] at done ⊢
  rcases runBuilt_bind_cases config cluster built (query.conclude config schema) handle with
    ⟨failed, _⟩ | ⟨statement, result, rfl, answered, _, _, state⟩
  · rw [failed] at done
    cases done
  · refine ⟨statement, result, sent, answered, ?_⟩
    rw [state]
    cases query with
    | startScan fresh => rfl
    | lookUp parts map =>
      rw [conclude_lookUp, Operation.bind_return]
      exact retained_readAt 0 _
    | _ => cases isQuery

/-- A reference from before a query stands for the row of the answer at its
    index as long as that is retained, so it reads nothing exactly where the answer
    has too few rows. -/
theorem stale_reference_iff (earlier middle : List Request) (session : Session W) {query : Request}
    (isQuery : query.isQuery = true) (ref : Bytes) :
    let given := (Operation.run (perform config schema cluster) earlier ⟨session, .released⟩).state
    let before := (Operation.run (perform config schema cluster) middle given).state
    let answered := perform config schema cluster query before
    (perform config schema cluster .reference given).result = .ok (.reference ref) →
    answered.result.isOk = true →
    ∃ statement result index, query.statement? config schema = some (.ok statement) ∧
      (run config cluster statement before).result = .ok result ∧ given.cursor.last = some index ∧
      ∀ later,
        let after := Operation.run (perform config schema cluster) later answered.state
        let again := perform config schema cluster (.readReferenced ref) after.state
        (∀ step ∈ after.steps, LeavesRows config schema step.1 step.2) →
          again.result = (rowRead config schema result index).map .row ∧
            (again.result = .ok (.row none) ↔ result.rows.length ≤ index) := by
  intro given before answered referred done
  obtain ⟨index, last, decoded⟩ := last_of_reference cluster referred
  obtain ⟨statement, result, sent, reply, held⟩ := query_answer config schema cluster isQuery done
  refine ⟨statement, result, index, sent, reply, last, ?_⟩
  intro later after again leave
  have retained : after.state.cursor.retained = some result := (retained_of_run cluster leave).trans held
  have reads : again.result = _ := (perform_readReferenced config schema cluster decoded retained).1
  refine ⟨reads, ?_⟩
  rw [reads, ← rowRead_eq_none_iff config schema]
  cases rowRead config schema result index with
  | error fault => simp [Except.map]
  | ok row => simp [Except.map]

/-- A reference to the second row reads nothing after a scan that finds one. -/
theorem stale_reference_reads_nothing :
    let config : Config := ⟨["10.0.0.1"], 9042, "cqlbridge", none, false, true, 1, "datacenter1", none, none,
      10000, 10000, .local, false, false⟩
    let schema : TableSchema := ⟨"shop", "t", [⟨"name", .textual .text, true, .regular⟩]⟩
    let answers : Script :=
      ⟨[], [], [⟨"SELECT", some 1, Double.ofNat 0, .ok ⟨["name"], [[.text "a"], [.text "b"]]⟩⟩,
        ⟨"SELECT", none, Double.ofNat 0, .ok ⟨["name"], [[.text "c"]]⟩⟩], Double.ofNat 0⟩
    let given := (Operation.run (perform config schema Script.cluster) [.startScan true, .readNext, .readNext]
      (start answers)).state
    let scan := perform config schema Script.cluster (.startScan true) given
    given.cursor.last = some 1 ∧ scan.result.isOk = true ∧
      (perform config schema Script.cluster (.readReferenced (bigEndian positionWidth 1)) scan.state).result =
        .ok (.row none) := by
  intro config schema answers given scan
  have cursor : given.cursor = ⟨some ⟨["name"], [["a"], ["b"]]⟩, 2, some 1⟩ := by decide +kernel
  have referred : (perform config schema Script.cluster .reference given).result =
      .ok (.reference (bigEndian positionWidth 1)) := perform_reference Script.cluster (by rw [cursor]) (by decide)
  have scanned : scan.result.isOk = true := by decide +kernel
  have found : (run config Script.cluster (.selectFrom schema "" config.allowFiltering) given).result.toOption =
      some ⟨["name"], [["c"]]⟩ := by decide +kernel
  have isQuery : (Request.startScan true).isQuery = true := rfl
  have same : (Operation.run (perform config schema Script.cluster) [.startScan true, .readNext, .readNext]
      ⟨Session.start answers, .released⟩).state = given := rfl
  clear_value given
  have stale := stale_reference_iff config schema Script.cluster [.startScan true, .readNext, .readNext] []
    (Session.start answers) isQuery (bigEndian positionWidth 1)
  rw [same] at stale
  obtain ⟨statement, result, index, sent, answered, last, reads⟩ := stale referred scanned
  cases sent
  have answered : (run config Script.cluster (.selectFrom schema "" config.allowFiltering) given).result = .ok result :=
    answered
  rw [answered] at found
  rw [cursor] at last
  cases found
  cases last
  exact ⟨by rw [cursor], scanned, (reads [] (by simp [Operation.run])).2.mpr (by decide)⟩

/-- A reference to the first row of a scan reads the first row of the next. -/
theorem stale_reference_reads_other_row :
    let config : Config := ⟨["10.0.0.1"], 9042, "cqlbridge", none, false, true, 1, "datacenter1", none, none,
      10000, 10000, .local, false, false⟩
    let schema : TableSchema := ⟨"shop", "t", [⟨"name", .textual .text, true, .regular⟩]⟩
    let answers : Script :=
      ⟨[], [], [⟨"SELECT", some 1, Double.ofNat 0, .ok ⟨["name"], [[.text "a"], [.text "b"]]⟩⟩,
        ⟨"SELECT", none, Double.ofNat 0, .ok ⟨["name"], [[.text "c"], [.text "d"]]⟩⟩], Double.ofNat 0⟩
    let given := (Operation.run (perform config schema Script.cluster) [.startScan true, .readNext]
      (start answers)).state
    let scan := perform config schema Script.cluster (.startScan true) given
    (perform config schema Script.cluster .reference given).result = .ok (.reference (bigEndian positionWidth 0)) ∧
      scan.result.isOk = true ∧
      (perform config schema Script.cluster (.readReferenced (bigEndian positionWidth 0)) scan.state).result =
        .ok (.row (some [("name", some (.text "c"))])) := by
  intro config schema answers given scan
  have last : given.cursor.last = some 0 := by decide +kernel
  have scanned : scan.result.isOk = true := by decide +kernel
  have retained : scan.state.cursor.retained = some ⟨["name"], [["c"], ["d"]]⟩ := by decide +kernel
  have decoded : decodePosition (bigEndian positionWidth 0) = .ok 0 := decodePosition_bigEndian (by decide)
  exact ⟨perform_reference Script.cluster last (by decide), scanned,
    (perform_readReferenced config schema Script.cluster decoded retained).1⟩

end TableHandle

end CqlTable
