import CqlTable.Proofs.Handle.Reading
import CqlTable.Session.Scripted

/-!
# Scans: rows in order

A cursor that has read nothing stands at the start of its result, and otherwise
behind the row that it read last. So a scan reads each row once, in order,
whatever is written meanwhile.
-/

namespace CqlTable

/-! ## Cursors -/

namespace Cursor

/-- A cursor that has read nothing stands at the start; one that has stands
    behind the row of its result that it read last. Without a result it has read
    nothing. -/
def WellPlaced (cursor : Cursor) : Prop :=
  (cursor.last = none ∧ cursor.next = 0) ∨
  ∃ result index, cursor.retained = some result ∧ cursor.last = some index ∧ index < result.rows.length ∧
    cursor.next = index + 1

variable {cursor : Cursor} {index : Nat}

theorem wellPlaced_ofResult (retained : Option QueryResult) : (ofResult retained).WellPlaced := .inl ⟨rfl, rfl⟩

/-- What was read last stays where the first row becomes the next one, so a
    cursor without rows must have read nothing. -/
theorem WellPlaced.atFirst (placed : cursor.WellPlaced) (noRow : cursor.row? 0 = none) :
    cursor.atFirst.WellPlaced := by
  rcases placed with ⟨unread, _⟩ | ⟨result, index, retained, _, bound, _⟩
  · exact .inl ⟨unread, rfl⟩
  · have found : (cursor.row? 0).isSome = true := row?_isSome.mpr ⟨result, retained, by omega⟩
    rw [noRow] at found
    cases found

/-- The rows that are still to be read. -/
def unread (schema : TableSchema) (cursor : Cursor) : List DecodedRow :=
  match cursor.retained with
  | none => []
  | some result => ((materializeAll result schema).map (·.row)).drop cursor.next

theorem head?_unread (schema : TableSchema) : (cursor.unread schema).head? =
    (cursor.row? cursor.next).map fun (names, cells) => (materialize names cells schema).row := by
  rw [unread, row?]
  cases cursor.retained with
  | none => rfl
  | some result =>
    simp only [List.head?_drop, materializeAll, List.getElem?_map, Option.map_map, Option.bind_some]
    rfl

theorem unread_read (schema : TableSchema) :
    (cursor.read cursor.next).unread schema = (cursor.unread schema).tail := by
  rw [Cursor.read]
  split
  · rw [unread, unread, past]
    cases cursor.retained with
    | none => rfl
    | some result => exact List.tail_drop.symm
  · next noRow =>
    have empty : (cursor.unread schema).head? = none := by
      rw [head?_unread, Option.not_isSome_iff_eq_none.mp noRow]
      rfl
    rw [List.head?_eq_none_iff.mp empty]
    rfl

end Cursor

namespace TableHandle

variable {W : Type} (config : Config) (schema : TableSchema) (cluster : Cluster W)

theorem keeps_wellPlaced_perform (request : Request) :
    Operation.Keeps (fun handle => handle.cursor.WellPlaced) (perform config schema cluster request) := by
  intro handle placed
  cases moves_perform config schema cluster request handle with
  | stays same => exact same ▸ placed
  | restarts noRow same => exact same ▸ placed.atFirst noRow
  | resets same => exact same ▸ Cursor.wellPlaced_ofResult _
  | @reads result index read =>
    have cursor : (perform config schema cluster request handle).state.cursor = _ := read.cursor
    exact cursor ▸ .inr ⟨result, index, rfl, rfl, read.bound, rfl⟩

/-! ## Scans -/

/-- The requests for the next row. -/
def Request.readsNext : Request → Bool
  | .readNext | .lookUpNext => true
  | _ => false

theorem readAt_lenient (lenient : config.strictDecoding = false) (index : Nat) (handle : TableHandle W) :
    (readAt config schema index handle).result =
      .ok ((handle.cursor.row? index).map fun (names, cells) => (materialize names cells schema).row) := by
  rw [readAt_result]
  cases handle.cursor.row? index with
  | none => rfl
  | some row =>
    simp only [delivered_lenient config lenient]
    rfl

theorem perform_eq_readNext {request : Request} (reads : request.readsNext = true) :
    perform config schema cluster request = do return .row (← readNext config schema) := by
  cases request with
  | readNext | lookUpNext => rfl
  | _ => cases reads

/-- A request for the next row takes the first of those still to be read. -/
theorem perform_readsNext (lenient : config.strictDecoding = false) {request : Request}
    (reads : request.readsNext = true) (handle : TableHandle W) :
    (perform config schema cluster request handle).result = .ok (.row (handle.cursor.unread schema).head?) ∧
      (perform config schema cluster request handle).state.cursor.unread schema =
        (handle.cursor.unread schema).tail := by
  have result : (readNext config schema handle).result = .ok (handle.cursor.unread schema).head? := by
    rw [Cursor.head?_unread]
    exact readAt_lenient config schema lenient handle.cursor.next handle
  have cursor : (readNext config schema handle).state.cursor = handle.cursor.read handle.cursor.next :=
    readAt_cursor handle.cursor.next handle
  rw [perform_eq_readNext config schema cluster reads, Operation.bind_return, result, cursor]
  exact ⟨rfl, Cursor.unread_read schema⟩

/-- Requests for the next row among others that leave the cursor alone: each row
    still to be read comes once and in order, and then none. -/
theorem results_readsNext (lenient : config.strictDecoding = false) {requests : List Request}
    (between : ∀ request ∈ requests, request.readsNext = true ∨ request.keepsCursor = true)
    (handle : TableHandle W) :
    (Operation.run (perform config schema cluster) requests handle).results Request.readsNext =
      (List.range (requests.countP Request.readsNext)).map fun i =>
        .ok (.row (handle.cursor.unread schema)[i]?) := by
  -- A request for the next row takes the head of what is unread; the others leave it whole.
  induction requests generalizing handle with
  | nil => rfl
  | cons request rest ih =>
    have later := ih (fun other inside => between other (by simp [inside]))
      (perform config schema cluster request handle).state
    cases reads : request.readsNext with
    | true =>
      obtain ⟨result, unread⟩ := perform_readsNext config schema cluster lenient reads handle
      rw [unread] at later
      rw [Operation.run_cons_results_of_pos reads, result, later, List.countP_cons_of_pos reads,
        List.range_succ_eq_map, List.map_cons, List.map_map, List.head?_eq_getElem?]
      congr 1
      refine List.map_congr_left fun i _ => ?_
      rw [List.getElem?_tail]
      rfl
    | false =>
      have kept := (between request (by simp)).resolve_left (by simp [reads])
      have cursor : (perform config schema cluster request handle).state.cursor = handle.cursor :=
        cursor_of_keeping config schema cluster kept handle
      rw [Operation.run_cons_results_of_neg reads, later, cursor, List.countP_cons_of_neg (by simp [reads])]

theorem startScan_of_ok {handle : TableHandle W}
    (started : (perform config schema cluster (.startScan true) handle).result.isOk = true) :
    ∃ result, (run config cluster (.selectFrom schema "" config.allowFiltering) handle).result = .ok result ∧
      (perform config schema cluster (.startScan true) handle).state.cursor = Cursor.ofResult (some result) := by
  have sent : (Request.startScan true).statement? config schema = some _ := rfl
  rw [perform_of_statement cluster sent] at started ⊢
  rcases runBuilt_bind_cases config cluster _ _ handle with
    ⟨failed, _⟩ | ⟨statement, result, built, answered, _, _, state⟩
  · rw [failed] at started
    cases started
  · cases built
    refine ⟨result, answered, ?_⟩
    rw [state]
    rfl

/-- After any requests the cursor is well placed. And from any handle on, after a
    scan has begun whose query was answered, lenient requests for the next row
    read each row of the answer once and in order and then none, whatever is
    written or referred to meanwhile. -/
theorem scan_reads_rows (earlier : List Request) (session : Session W) :
    (Operation.run (perform config schema cluster) earlier ⟨session, .released⟩).state.cursor.WellPlaced ∧
      ∀ handle : TableHandle W, config.strictDecoding = false →
        (perform config schema cluster (.startScan true) handle).result.isOk = true →
        ∃ result,
          (run config cluster (.selectFrom schema "" config.allowFiltering) handle).result = .ok result ∧
          ∀ requests : List Request,
            (∀ request ∈ requests, request.readsNext = true ∨ request.keepsCursor = true) →
            (Operation.run (perform config schema cluster) requests
                (perform config schema cluster (.startScan true) handle).state).results Request.readsNext =
              (List.range (requests.countP Request.readsNext)).map fun i =>
                .ok (.row ((materializeAll result schema)[i]?.map (·.row))) := by
  refine ⟨?_, ?_⟩
  · exact Operation.run_preserves (P := fun handle : TableHandle W => fun _ => handle.cursor.WellPlaced)
      (fun request _ handle _ => keeps_wellPlaced_perform config schema cluster request handle)
      (Cursor.wellPlaced_ofResult none)
  · intro handle lenient started
    obtain ⟨result, answered, cursor⟩ := startScan_of_ok config schema cluster started
    refine ⟨result, answered, ?_⟩
    intro requests between
    rw [results_readsNext config schema cluster lenient between, cursor]
    simp only [Cursor.unread, Cursor.ofResult, List.drop_zero, List.getElem?_map]

/-- Two rows are read while another is written. -/
theorem scan_between_writes :
    let config : Config := ⟨["10.0.0.1"], 9042, "cqlbridge", none, false, true, 1, "datacenter1", none, none,
      10000, 10000, .local, false, false⟩
    let schema : TableSchema := ⟨"shop", "t", [⟨"name", .textual .text, true, .regular⟩]⟩
    let answers : Script :=
      ⟨[], [], [⟨"SELECT", none, Double.ofNat 0, .ok ⟨["name"], [[.text "a"], [.text "b"]]⟩⟩], Double.ofNat 0⟩
    let scan := perform config schema Script.cluster (.startScan true) (start answers)
    let requests : List Request :=
      [.readNext, .reference, .write [("name", .scalar (.text "c"))], .readNext, .readNext]
    scan.result.isOk = true ∧
      (Operation.run (perform config schema Script.cluster) requests scan.state).results Request.readsNext =
        [.ok (.row (some [("name", some (.text "a"))])), .ok (.row (some [("name", some (.text "b"))])),
          .ok (.row none)] := by
  intro config schema answers scan requests
  have started : scan.result.isOk = true := by decide +kernel
  obtain ⟨result, answered, rows⟩ :=
    (scan_reads_rows config schema Script.cluster [] (Session.start answers)).2 (start answers) rfl started
  have same : (run config Script.cluster (.selectFrom schema "" config.allowFiltering)
      (start answers)).result.toOption = some ⟨["name"], [["a"], ["b"]]⟩ := by decide +kernel
  rw [answered] at same
  cases same
  refine ⟨started, (rows requests (by simp [requests, Request.readsNext, Request.keepsCursor])).trans ?_⟩
  rfl

end TableHandle

end CqlTable
