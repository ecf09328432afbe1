import CqlTable.Session.Operation

/-!
# Runs: requests carried out one after another

Each request is carried out in the state that the one before it left, whether
that one failed or not. What every request keeps, a run keeps.
-/

namespace CqlTable

/-- A run: the requests with what each of them left, and the state at the end. -/
structure Run (S R α : Type) where
  steps : List (R × Outcome S α)
  state : S

/-- The calls of a run. -/
def Run.calls {S R α : Type} (run : Run S R α) : List ClientCall := run.steps.flatMap fun step => step.2.calls

/-- The results of the requests of a kind, in order. -/
def Run.results {S R α : Type} (kind : R → Bool) (run : Run S R α) : List (Except Fault α) :=
  (run.steps.filter fun step => kind step.1).map fun step => step.2.result

namespace Operation

variable {S R α β γ : Type}

/-! ## One operation after another -/

theorem bind_of_error {first : Operation S α} {next : α → Operation S β} {s : S} {fault : Fault}
    (failed : (first s).result = .error fault) :
    (first >>= next) s = ⟨.error fault, (first s).state, (first s).calls, (first s).logs⟩ := by
  show bind first next s = _
  unfold bind
  cases same : first s with
  | mk result state calls logs =>
    rw [same] at failed
    cases failed
    rfl

theorem bind_of_ok {first : Operation S α} {next : α → Operation S β} {s : S} {a : α}
    (done : (first s).result = .ok a) :
    (first >>= next) s =
      ⟨(next a (first s).state).result, (next a (first s).state).state,
        (first s).calls ++ (next a (first s).state).calls, (first s).logs ++ (next a (first s).state).logs⟩ := by
  show bind first next s = _
  unfold bind
  cases same : first s with
  | mk result state calls logs =>
    rw [same] at done
    cases done
    rfl

theorem bind_return (first : Operation S α) (f : α → β) (s : S) :
    (do return f (← first) : Operation S β) s =
      ⟨(first s).result.map f, (first s).state, (first s).calls, (first s).logs⟩ := by
  cases result : (first s).result with
  | error fault => exact bind_of_error result
  | ok a =>
    refine (bind_of_ok result).trans ?_
    show Outcome.mk _ _ (_ ++ []) (_ ++ []) = _
    rw [List.append_nil, List.append_nil]
    rfl

theorem bind_assoc (first : Operation S α) (next : α → Operation S β) (last : β → Operation S γ) (s : S) :
    ((first >>= next) >>= last) s = (first >>= fun a => next a >>= last) s := by
  cases done : (first s).result with
  | error fault =>
    have failed : ((first >>= next) s).result = .error fault := by rw [bind_of_error done]
    rw [bind_of_error failed, bind_of_error done, bind_of_error done]
  | ok a =>
    have whole : (first >>= fun a => next a >>= last) s = _ := bind_of_ok done
    rw [whole]
    cases later : (next a (first s).state).result with
    | error fault =>
      have failed : ((first >>= next) s).result = .error fault := by rw [bind_of_ok done, later]
      rw [bind_of_error failed, bind_of_ok done, bind_of_error later]
    | ok b =>
      have both : ((first >>= next) s).result = .ok b := by rw [bind_of_ok done, later]
      rw [bind_of_ok both, bind_of_ok done, bind_of_ok later]
      simp only [List.append_assoc]

theorem result_bind_record (first : Operation S α) (log : LogRecord) (s : S) :
    ((first >>= fun _ => record log) s).result = (first s).result.map fun _ => () := by
  cases result : (first s).result with
  | error fault =>
    rw [bind_of_error result]
    rfl
  | ok a =>
    rw [bind_of_ok result]
    rfl

/-- What holds after the second of two operations where it succeeds holds after
    both. -/
theorem bind_isOk {first : Operation S α} {next : α → Operation S β} {P : S → Prop}
    (each : ∀ a s, (next a s).result.isOk = true → P (next a s).state) {s : S}
    (done : ((first >>= next) s).result.isOk = true) : P ((first >>= next) s).state := by
  cases result : (first s).result with
  | error fault =>
    rw [bind_of_error result] at done
    cases done
  | ok a =>
    rw [bind_of_ok result] at done ⊢
    exact each a _ done

@[simp] theorem state_bind (next : S → Operation S β) (s : S) : (state >>= next) s = next s s := rfl

@[simp] theorem change_bind (f : S → S) (next : Unit → Operation S β) (s : S) :
    (change f >>= next) s = next () (f s) := rfl

@[simp] theorem ofExcept_bind (a : α) (next : α → Operation S β) (s : S) :
    (ofExcept (.ok a) >>= next) s = next a s := rfl

@[simp] theorem record_bind (log : LogRecord) (next : Unit → Operation S β) (s : S) :
    (record log >>= next) s = { next () s with logs := log :: (next () s).logs } := rfl

/-! ## What operations keep -/

/-- What holds of the state before an operation holds after it, whether it
    succeeds or not. -/
def Keeps (P : S → Prop) (operation : Operation S α) : Prop := ∀ s, P s → P (operation s).state

variable {P : S → Prop}

theorem keeps_of_state {operation : Operation S α} (same : ∀ s, (operation s).state = s) : Keeps P operation := by
  intro s holds
  rw [same]
  exact holds

theorem Keeps.bind {first : Operation S α} {next : α → Operation S β} (keeps : Keeps P first)
    (others : ∀ a, Keeps P (next a)) : Keeps P (first >>= next) := by
  intro s holds
  cases result : (first s).result with
  | error fault =>
    rw [bind_of_error result]
    exact keeps s holds
  | ok a =>
    rw [bind_of_ok result]
    exact others a _ (keeps s holds)

/-! ## Requests one after another -/

/-- Requests carried out in turn. -/
def run (perform : R → Operation S α) : List R → S → Run S R α
  | [], s => ⟨[], s⟩
  | request :: rest, s =>
    let after := run perform rest (perform request s).state
    ⟨(request, perform request s) :: after.steps, after.state⟩

theorem run_cons_calls (perform : R → Operation S α) (request : R) (rest : List R) (s : S) :
    (run perform (request :: rest) s).calls =
      (perform request s).calls ++ (run perform rest (perform request s).state).calls := rfl

theorem run_cons_results_of_pos {perform : R → Operation S α} {kind : R → Bool} {request : R}
    (chosen : kind request = true) (rest : List R) (s : S) :
    (run perform (request :: rest) s).results kind =
      (perform request s).result :: (run perform rest (perform request s).state).results kind := by
  simp [run, Run.results, chosen]

theorem run_cons_results_of_neg {perform : R → Operation S α} {kind : R → Bool} {request : R}
    (other : kind request = false) (rest : List R) (s : S) :
    (run perform (request :: rest) s).results kind = (run perform rest (perform request s).state).results kind := by
  simp [run, Run.results, other]

theorem run_append (perform : R → Operation S α) (first rest : List R) (s : S) :
    run perform (first ++ rest) s =
      ⟨(run perform first s).steps ++ (run perform rest (run perform first s).state).steps,
        (run perform rest (run perform first s).state).state⟩ := by
  induction first generalizing s with
  | nil => rfl
  | cons request first ih =>
    rw [List.cons_append, run, ih]
    rfl

theorem run_append_singleton_state (perform : R → Operation S α) (first : List R) (request : R) (s : S) :
    (run perform (first ++ [request]) s).state = (perform request (run perform first s).state).state := by
  rw [run_append]
  rfl

theorem run_preserves {perform : R → Operation S α} {P : S → List ClientCall → Prop} {requests : List R}
    (step : ∀ request ∈ requests, ∀ s calls, P s calls →
      P (perform request s).state (calls ++ (perform request s).calls))
    {s : S} (start : P s []) : P (run perform requests s).state (run perform requests s).calls := by
  -- What was called before is kept apart, so that the first request can be taken off.
  have later : ∀ s calls, P s calls →
      P (run perform requests s).state (calls ++ (run perform requests s).calls) := by
    clear start s
    induction requests with
    | nil =>
      intro s calls holds
      simpa [run, Run.calls] using holds
    | cons request rest ih =>
      intro s calls holds
      have one := step request (by simp) s calls holds
      rw [run_cons_calls, ← List.append_assoc]
      exact ih (fun other inside => step other (by simp [inside])) _ _ one
  exact later s [] start

/-- Where every request does the same to the state and asks the same of clients,
    so does every run. -/
theorem run_congr {perform perform' : R → Operation S α}
    (step : ∀ request s, (perform' request s).state = (perform request s).state ∧
      (perform' request s).calls = (perform request s).calls) (requests : List R) (s : S) :
    (run perform' requests s).state = (run perform requests s).state ∧
      (run perform' requests s).calls = (run perform requests s).calls := by
  induction requests generalizing s with
  | nil => exact ⟨rfl, rfl⟩
  | cons request rest ih =>
    obtain ⟨state, calls⟩ := step request s
    obtain ⟨laterState, laterCalls⟩ := ih (perform request s).state
    rw [run_cons_calls, run_cons_calls, run, state, calls, laterCalls]
    exact ⟨laterState, rfl⟩

/-- What each step keeps, a run of such steps keeps. -/
theorem run_keeps {perform : R → Operation S α} {P : S → Prop} {Q : R × Outcome S α → Prop}
    (step : ∀ request s, Q (request, perform request s) → P s → P (perform request s).state) {requests : List R}
    {s : S} (each : ∀ done ∈ (run perform requests s).steps, Q done) (start : P s) :
    P (run perform requests s).state := by
  induction requests generalizing s with
  | nil => exact start
  | cons request rest ih =>
    have first := each _ List.mem_cons_self
    exact ih (fun done inside => each done (List.mem_cons_of_mem _ inside)) (step request s first start)

end Operation

end CqlTable
