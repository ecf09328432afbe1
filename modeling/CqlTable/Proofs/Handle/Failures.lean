import CqlTable.Proofs.Handle.Reading
import CqlTable.Proofs.Handle.Sending

/-!
# Requests that fail

A request whose statement cannot be built does nothing. One whose statement is
not answered, for whatever reason, leaves the cursor where it was, and so does a
reference that stands for no row.
-/

namespace CqlTable

namespace TableHandle

variable {W : Type} (config : Config) (schema : TableSchema) (cluster : Cluster W)

/-- A client answered a statement. -/
def Answered (statement : Statement) (calls : List ClientCall) : Prop :=
  ∃ n, .execute n statement.text none ∈ calls

/-- An answer that a handle has was given to it by a client. -/
theorem answered_of_run {statement : Statement} {handle : TableHandle W} {result : QueryResult}
    (done : (run config cluster statement handle).result = .ok result) :
    Answered statement (run config cluster statement handle).calls := by
  obtain ⟨⟨all, attempt, whole⟩, _⟩ := served_run config cluster statement handle
  rw [whole (by rw [done]; rfl)] at attempt
  exact attempt.answered_of_all List.mem_cons_self

variable {config schema}

/-- A request whose statement is not answered fails, and the cursor stays where
    it was. -/
theorem fails_of_unanswered {request : Request} {built : Except Fault Statement}
    (sent : request.statement? config schema = some built) {handle : TableHandle W}
    (unanswered : ∀ statement, built = .ok statement →
      ¬ Answered statement (perform config schema cluster request handle).calls) :
    (perform config schema cluster request handle).result.isOk = false ∧
      (perform config schema cluster request handle).state.cursor = handle.cursor := by
  rw [perform_of_statement cluster sent] at unanswered ⊢
  refine (runBuilt_bind_cases config cluster built _ handle).resolve_right ?_
  rintro ⟨statement, result, isBuilt, done, earlier, _⟩
  obtain ⟨n, there⟩ := answered_of_run config cluster done
  exact unanswered statement isBuilt ⟨n, earlier.subset there⟩

/-- A reference that stands for no row leaves a handle as it was. -/
theorem readReferenced_of_no_row {ref : Bytes} {handle : TableHandle W}
    (noRow : ∀ index, decodePosition ref = .ok index →
      ∀ result, handle.cursor.retained = some result → result.rows.length ≤ index) :
    (readReferenced config schema ref handle).state = handle := by
  cases decoded : decodePosition ref with
  | error e => rw [readReferenced_of_error decoded]
  | ok index =>
    have missing : handle.cursor.row? index = none := by
      rw [← Option.not_isSome_iff_eq_none, Cursor.row?_isSome]
      rintro ⟨result, retained, bound⟩
      exact absurd (noRow index decoded result retained) (by omega)
    rw [readReferenced_of_ok decoded, readAt_of_no_row missing]

variable (config schema)

/-- A request whose statement cannot be built does nothing but fail. A request
    whose statement no client answered fails and leaves the cursor where it was,
    and a reference that is malformed, out of range or past the last row leaves
    everything as it was. -/
theorem failed_request_without_effect (handle : TableHandle W) :
    (∀ request built, request.statement? config schema = some built →
      let outcome := perform config schema cluster request handle
      (∀ fault, built = .error fault → outcome = ⟨.error fault, handle, [], []⟩) ∧
      ((∀ statement, built = .ok statement → ¬ Answered statement outcome.calls) →
        outcome.result.isOk = false ∧ outcome.state.cursor = handle.cursor)) ∧
    ∀ ref, (ref.length ≠ positionWidth ∨ greatestPosition < ofBigEndian ref ∨
        ∀ result, handle.cursor.retained = some result → result.rows.length ≤ ofBigEndian ref) →
      (perform config schema cluster (.readReferenced ref) handle).state = handle := by
  refine ⟨?_, ?_⟩
  · intro request built sent outcome
    refine ⟨?_, fails_of_unanswered cluster sent⟩
    rintro fault rfl
    exact perform_of_statement cluster sent handle
  · intro ref noRow
    have performed : perform config schema cluster (.readReferenced ref) =
        do return .row (← readReferenced config schema ref) := rfl
    rw [performed, Operation.bind_return]
    refine readReferenced_of_no_row ?_
    intro index decoded result retained
    obtain ⟨width, small, rfl⟩ := decodePosition_eq_ok_iff.mp decoded
    have past := (noRow.resolve_left (not_not.mpr width)).resolve_left (Nat.not_lt.mpr small)
    exact past result retained

/-- Within a scan, a row that cannot be written sends nothing, and a refused drop
    and a reference past the last row leave the scan where it was. -/
theorem scan_survives_failures :
    let config : Config := ⟨["10.0.0.1"], 9042, "cqlbridge", none, false, true, 1, "datacenter1", none, none,
      10000, 10000, .local, false, false⟩
    let schema : TableSchema := ⟨"shop", "t", [⟨"name", .textual .text, true, .regular⟩]⟩
    let answers : Script :=
      ⟨[], [], [⟨"SELECT", none, Double.ofNat 0, .ok ⟨["name"], [[.text "a"], [.text "b"]]⟩⟩,
        ⟨"DROP", none, Double.ofNat 0, .error (.response "refused")⟩], Double.ofNat 0⟩
    let scanning := (Operation.run (perform config schema Script.cluster) [.startScan true, .readNext]
      (start answers)).state
    let write := perform config schema Script.cluster (.write [("name", .scalar (.fields []))]) scanning
    let drop := perform config schema Script.cluster .drop scanning
    scanning.cursor = ⟨some ⟨["name"], [["a"], ["b"]]⟩, 1, some 0⟩ ∧
      (∃ fault, write = ⟨.error fault, scanning, [], []⟩) ∧
      (drop.calls = [.execute 0 "DROP TABLE IF EXISTS shop.t" (some (.response "refused"))] ∧
        drop.result.isOk = false ∧ drop.state.cursor = scanning.cursor) ∧
      (perform config schema Script.cluster (.readReferenced (bigEndian positionWidth 2)) scanning).state =
        scanning := by
  intro config schema answers scanning write drop
  have cursor : scanning.cursor = ⟨some ⟨["name"], [["a"], ["b"]]⟩, 1, some 0⟩ := by decide +kernel
  have calls : drop.calls = [.execute 0 "DROP TABLE IF EXISTS shop.t" (some (.response "refused"))] := by
    decide +kernel
  obtain ⟨sends, refers⟩ := failed_request_without_effect config schema Script.cluster scanning
  obtain ⟨fault, refused⟩ :
      ∃ fault, config.dialect.insert schema [("name", .scalar (.fields []))] = .error fault := ⟨_, rfl⟩
  have written : write = ⟨.error fault, scanning, [], []⟩ :=
    (sends (.write [("name", .scalar (.fields []))]) _ rfl).1 fault refused
  have performed : perform config schema Script.cluster .drop scanning = drop := rfl
  have dropped := (sends .drop (.ok (.dropTable schema.qualifiedName)) rfl).2
  rw [performed, calls] at dropped
  have past : ∀ result, scanning.cursor.retained = some result →
      result.rows.length ≤ ofBigEndian (bigEndian positionWidth 2) := by
    rw [cursor]
    rintro _ ⟨⟩
    decide
  refine ⟨cursor, ⟨fault, written⟩, ⟨calls, dropped ?_⟩, refers _ (.inr (.inr past))⟩
  rintro statement _ ⟨n, answered⟩
  simp at answered

end TableHandle

end CqlTable
