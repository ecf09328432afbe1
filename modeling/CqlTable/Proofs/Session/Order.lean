import CqlTable.Proofs.Session.LifeCycle

/-!
# The order of calls

Statements that are given to the client of a session, or to a new one, go out in
order and each at most once. The first call that fails is the last, but for the
shutdown of a client that is lost.
-/

namespace CqlTable

/-- How a call failed, if it did. -/
def ClientCall.failure? : ClientCall → Option ClientFailure
  | connect _ failure | execute _ _ failure | shutdown _ failure => failure

/-- The statements that clients were given, in order. -/
def executed (calls : List ClientCall) : List String :=
  calls.filterMap fun
    | .execute _ cql _ => some cql
    | _ => none

/-- What may follow a call that failed: nothing, but where a statement lost its
    client, that client is shut down. -/
def EndsAfter (failed : ClientCall) (rest : List ClientCall) : Prop :=
  rest = [] ∨ ∃ n cql failure stopped, failed = .execute n cql (some failure) ∧
    failure.isConnectionLoss = true ∧ rest = [.shutdown n stopped]

namespace Session

variable {W : Type}

/-- The calls that statements are given with: all to one client. It is a new
    one where the session had none, and then the first call connects it and the
    first statement enters the keyspace of the session. Each statement is sent
    at most once and in order, and the first call that fails ends the rest. -/
structure Orderly (before : Session W) (texts : List String) (calls : List ClientCall) : Prop where
  client : ∀ call ∈ calls, call.client = before.client.getD before.made
  connects : ∀ first n failure rest, calls = first ++ .connect n failure :: rest →
    first = [] ∧ before.isConnected = false
  sends : executed calls <+: (if before.isConnected then [] else before.restoring) ++ texts
  ends : ∀ first call failure rest, calls = first ++ call :: rest → call.failure? = some failure →
    EndsAfter call rest

end Session

/-! ## Over one client -/

namespace Sends

variable {n : Nat} {texts : List String} {calls : List ClientCall} {client : Option Nat} {all : Bool}

theorem executed_prefix (sends : Sends n texts calls client all) : executed calls <+: texts := by
  induction sends with
  | done => exact List.nil_prefix
  | answered _ ih => exact List.cons_prefix_cons.mpr ⟨rfl, ih⟩
  | refused _ => exact List.cons_prefix_cons.mpr ⟨rfl, List.nil_prefix⟩
  | lost _ => exact List.cons_prefix_cons.mpr ⟨rfl, List.nil_prefix⟩

theorem executed_of_all (sends : Sends n texts calls client true) : executed calls = texts := by
  generalize whole : true = all at sends
  induction sends with
  | done => rfl
  | @answered cql rest calls client all _ ih =>
    show cql :: executed calls = cql :: rest
    rw [ih whole]
  | refused _ => cases whole
  | lost _ => cases whole

theorem answered_of_all (sends : Sends n texts calls client true) {cql : String} (given : cql ∈ texts) :
    .execute n cql none ∈ calls := by
  generalize whole : true = all at sends
  induction sends with
  | done => cases given
  | answered _ ih =>
    rcases List.mem_cons.mp given with rfl | given
    · exact List.mem_cons_self
    · exact List.mem_cons_of_mem _ (ih given whole)
  | refused _ => cases whole
  | lost _ => cases whole

theorem all_iff (sends : Sends n texts calls client all) : all = true ↔ ∀ call ∈ calls, call.failure? = none := by
  induction sends with
  | done => simp
  | answered _ ih => simpa [ClientCall.failure?] using ih
  | refused _ => simp [ClientCall.failure?]
  | lost _ => simp [ClientCall.failure?]

theorem client_of_call (sends : Sends n texts calls client all) : ∀ call ∈ calls, call.client = n := by
  induction sends with
  | done => simp
  | answered _ ih => simpa [ClientCall.client] using ih
  | refused _ => simp [ClientCall.client]
  | lost _ => simp [ClientCall.client]

theorem not_connect (sends : Sends n texts calls client all) (m : Nat) (failure : Option ClientFailure) :
    .connect m failure ∉ calls := by
  induction sends with
  | done => simp
  | answered _ ih => simpa using ih
  | refused _ => simp
  | lost _ => simp

theorem ends (sends : Sends n texts calls client all) {first rest : List ClientCall} {call : ClientCall}
    {failure : ClientFailure} (same : calls = first ++ call :: rest) (failed : call.failure? = some failure) :
    EndsAfter call rest := by
  induction sends generalizing first with
  | done => simp at same
  | answered _ ih =>
    cases first with
    | nil =>
      cases same
      cases failed
    | cons one first => exact ih (List.cons.inj same).2
  | refused _ =>
    cases first with
    | nil =>
      cases same
      exact .inl rfl
    | cons one first => simp at same
  | @lost _ _ _ stopped gone =>
    cases first with
    | nil =>
      cases same
      exact .inr ⟨_, _, _, stopped, rfl, gone, rfl⟩
    | cons one first =>
      cases first with
      | nil =>
        cases same
        exact .inl rfl
      | cons two first => simp at same

end Sends

namespace Session

variable {W : Type} {before : Session W} {texts : List String} {calls : List ClientCall} {client : Option Nat}
  {made : Nat} {all : Bool}

theorem orderly_nil (before : Session W) (texts : List String) : Orderly before texts [] :=
  ⟨by simp, by simp, List.nil_prefix, by simp⟩

theorem Attempt.orderly (attempt : Attempt before texts calls client made all) : Orderly before texts calls := by
  cases attempt with
  | @present n _ _ _ connected sends =>
    have isConnected : before.isConnected = true := by rw [Session.isConnected, connected]; rfl
    refine ⟨?_, ?_, ?_, fun _ _ _ _ => sends.ends⟩
    · rw [connected]
      exact sends.client_of_call
    · rintro first m failure rest rfl
      exact absurd (by simp) (sends.not_connect m failure)
    · rw [isConnected]
      exact sends.executed_prefix
  | unreachable unconnected =>
    refine ⟨?_, ?_, List.nil_prefix, ?_⟩
    · simp [ClientCall.client, unconnected]
    · intro first m failure rest same
      cases first with
      | nil => exact ⟨rfl, by rw [Session.isConnected, unconnected]; rfl⟩
      | cons one first => simp at same
    · intro first call failure rest same _
      cases first with
      | nil =>
        cases same
        exact .inl rfl
      | cons one first => simp at same
  | anew unconnected sends =>
    -- The first call connects the new client, and the others are given to it.
    have closed : before.isConnected = false := by rw [Session.isConnected, unconnected]; rfl
    refine ⟨?_, ?_, ?_, ?_⟩
    · rw [unconnected]
      intro call inside
      rcases List.mem_cons.mp inside with rfl | inside
      · rfl
      · exact sends.client_of_call call inside
    · intro first m failure rest same
      cases first with
      | nil => exact ⟨rfl, closed⟩
      | cons one first =>
        obtain ⟨_, later⟩ := List.cons.inj same
        exact absurd (by simp [later]) (sends.not_connect m failure)
    · rw [closed]
      exact sends.executed_prefix
    · intro first call failure rest same failed
      cases first with
      | nil =>
        cases same
        cases failed
      | cons one first => exact sends.ends (List.cons.inj same).2 failed

theorem Attempt.executed_eq (attempt : Attempt before texts calls client made true) :
    executed calls = (if before.isConnected then [] else before.restoring) ++ texts := by
  cases attempt with
  | present connected sends =>
    have isConnected : before.isConnected = true := by rw [Session.isConnected, connected]; rfl
    rw [isConnected]
    exact sends.executed_of_all
  | @anew calls _ _ unconnected sends =>
    have closed : before.isConnected = false := by rw [Session.isConnected, unconnected]; rfl
    rw [closed]
    exact sends.executed_of_all

theorem Attempt.executed_of_all (attempt : Attempt before texts calls client made true) : texts <:+ executed calls := by
  rw [attempt.executed_eq]
  exact List.suffix_append _ _

/-- All statements were answered exactly when no call failed. -/
theorem Attempt.all_iff (attempt : Attempt before texts calls client made all) :
    all = true ↔ ∀ call ∈ calls, call.failure? = none := by
  cases attempt with
  | present _ sends => exact sends.all_iff
  | unreachable _ => simp [ClientCall.failure?]
  | anew _ sends =>
    rw [sends.all_iff]
    simp [ClientCall.failure?]

theorem Attempt.answered_of_all (attempt : Attempt before texts calls client made true) {cql : String}
    (given : cql ∈ texts) : ∃ n, .execute n cql none ∈ calls := by
  cases attempt with
  | present _ sends => exact ⟨_, sends.answered_of_all given⟩
  | anew _ sends =>
    exact ⟨_, List.mem_cons_of_mem _ (sends.answered_of_all (List.mem_append_right _ given))⟩

end Session

end CqlTable
