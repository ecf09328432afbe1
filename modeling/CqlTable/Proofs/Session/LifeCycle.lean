import CqlTable.Proofs.Session.Sending

/-!
# Life cycle of clients

The calls of a session are visits of its clients, one client after the other.
A visit connects, and if that succeeds it executes statements until the client
is shut down; the next client is made only when the visit is over.
-/

namespace CqlTable

/-- The client of a call. -/
def ClientCall.client : ClientCall → Nat
  | connect n _ | execute n _ _ | shutdown n _ => n

/-- Statements executed by client `n`, each with how it failed, if it did. -/
def executions (n : Nat) (statements : List (String × Option ClientFailure)) : List ClientCall :=
  statements.map fun (cql, failure) => .execute n cql failure

/-- The calls of client `n`, and whether it is still in use after them. -/
inductive Visit (n : Nat) : List ClientCall → Bool → Prop
  | refused (failure) : Visit n [.connect n (some failure)] false
  | inUse (statements) : Visit n (.connect n none :: executions n statements) true
  | closed (statements stopped) :
      Visit n (.connect n none :: (executions n statements ++ [.shutdown n stopped])) false

/-- The visits of the first `made` clients, in order, and whether the last is
    still in use. No visit begins before the one before it is over. -/
inductive Visits : (made : Nat) → List ClientCall → Bool → Prop
  | empty : Visits 0 [] false
  | next {n calls visit inUse} : Visits n calls false → Visit n visit inUse → Visits (n + 1) (calls ++ visit) inUse

/-! ## One visit -/

theorem Visit.execute {n : Nat} {visit : List ClientCall} (cql : String) (failure : Option ClientFailure)
    (inUse : Visit n visit true) : Visit n (visit ++ [.execute n cql failure]) true := by
  cases inUse with
  | inUse statements =>
    have longer := Visit.inUse (n := n) (statements ++ [(cql, failure)])
    rwa [executions, List.map_append] at longer

theorem Visit.shutdown {n : Nat} {visit : List ClientCall} (stopped : Option ClientFailure)
    (inUse : Visit n visit true) : Visit n (visit ++ [.shutdown n stopped]) false := by
  cases inUse with
  | inUse statements => exact .closed statements stopped

theorem Visit.sends {n : Nat} {visit calls : List ClientCall} {texts : List String} {client : Option Nat} {all : Bool}
    (inUse : Visit n visit true) (sends : Sends n texts calls client all) :
    Visit n (visit ++ calls) client.isSome := by
  induction sends generalizing visit with
  | done =>
    rw [List.append_nil]
    exact inUse
  | answered _ ih =>
    rw [List.append_cons]
    exact ih (inUse.execute _ _)
  | refused _ => exact inUse.execute _ _
  | lost _ =>
    rw [List.append_cons]
    exact (inUse.execute _ _).shutdown _

theorem Visit.client_eq {n : Nat} {visit : List ClientCall} {inUse : Bool} (visited : Visit n visit inUse) :
    ∀ call ∈ visit, call.client = n := by
  have executed : ∀ statements, ∀ call ∈ executions n statements, call.client = n := by
    intro statements call inside
    obtain ⟨_, _, rfl⟩ := List.mem_map.mp inside
    rfl
  intro call inside
  cases visited with
  | refused failure =>
    rw [List.mem_singleton.mp inside]
    rfl
  | inUse statements =>
    rcases List.mem_cons.mp inside with rfl | inside
    · rfl
    · exact executed statements call inside
  | closed statements stopped =>
    rcases List.mem_cons.mp inside with rfl | inside
    · rfl
    rcases List.mem_append.mp inside with inside | inside
    · exact executed statements call inside
    · rw [List.mem_singleton.mp inside]
      rfl

/-- A client is in use when it connected and was not shut down. -/
theorem Visit.inUse_iff {n : Nat} {visit : List ClientCall} {inUse : Bool} (visited : Visit n visit inUse) :
    inUse = true ↔ .connect n none ∈ visit ∧ ∀ stopped, .shutdown n stopped ∉ visit := by
  cases visited with
  | refused failure => simp
  | inUse statements => simp [executions]
  | closed statements stopped =>
    constructor
    · nofun
    · rintro ⟨_, running⟩
      exact absurd (by simp) (running stopped)

/-! ## Visits in order -/

theorem Visits.client_lt {made : Nat} {calls : List ClientCall} {inUse : Bool} (visits : Visits made calls inUse) :
    ∀ call ∈ calls, call.client < made := by
  induction visits with
  | empty => simp
  | next _ visit ih =>
    intro call inside
    rcases List.mem_append.mp inside with before | now
    · exact Nat.lt_succ_of_lt (ih call before)
    · rw [visit.client_eq call now]
      exact Nat.lt_succ_self _

theorem Visits.inUse_iff {made : Nat} {calls : List ClientCall} {inUse : Bool} (visits : Visits made calls inUse) :
    inUse = true ↔
      ∃ n, made = n + 1 ∧ .connect n none ∈ calls ∧ ∀ stopped, .shutdown n stopped ∉ calls := by
  cases visits with
  | empty => simp
  | @next n calls visit _ visits visited =>
    have other : ∀ call : ClientCall, call.client = n → call ∉ calls := by
      intro call same inside
      exact absurd (visits.client_lt call inside) (by omega)
    have inVisit : ∀ call : ClientCall, call.client = n → (call ∈ calls ++ visit ↔ call ∈ visit) := by
      intro call same
      rw [List.mem_append]
      exact or_iff_right (other call same)
    rw [visited.inUse_iff]
    constructor
    · rintro ⟨connected, running⟩
      refine ⟨n, rfl, (inVisit _ rfl).mpr connected, ?_⟩
      intro stopped inside
      exact running stopped ((inVisit _ rfl).mp inside)
    · rintro ⟨_, same, connected, running⟩
      cases same
      refine ⟨(inVisit _ rfl).mp connected, ?_⟩
      intro stopped inside
      exact running stopped ((inVisit _ rfl).mpr inside)

theorem Visits.extend {n : Nat} {calls later : List ClientCall} {inUse : Bool} (visits : Visits (n + 1) calls true)
    (longer : ∀ visit, Visit n visit true → Visit n (visit ++ later) inUse) :
    Visits (n + 1) (calls ++ later) inUse := by
  cases visits with
  | next before visit =>
    rw [List.append_assoc]
    exact .next before (longer _ visit)

/-! ## Sessions -/

namespace Session

variable {W : Type}

/-- The calls so far are visits of the clients that the session made; the last
    of them is its client, if it has one. -/
structure Tracks (session : Session W) (calls : List ClientCall) : Prop where
  visits : Visits session.made calls session.isConnected
  last : ∀ n, session.client = some n → session.made = n + 1

theorem tracks_start (world : W) : Tracks (start world) [] := ⟨.empty, nofun⟩

theorem Tracks.attempt {before : Session W} {texts : List String} {calls later : List ClientCall}
    {client : Option Nat} {made : Nat} {all : Bool} (tracks : Tracks before calls)
    (attempt : Attempt before texts later client made all) :
    Visits made (calls ++ later) client.isSome ∧ ∀ n, client = some n → made = n + 1 := by
  obtain ⟨visits, last⟩ := tracks
  rw [isConnected] at visits
  cases attempt with
  | @present n _ _ _ connected sends =>
    rw [connected, last n connected] at visits
    refine ⟨last n connected ▸ visits.extend fun _ visit => visit.sends sends, ?_⟩
    intro m same
    rw [sends.client_eq same]
    exact last n connected
  | unreachable unconnected =>
    rw [unconnected] at visits
    refine ⟨.next visits (.refused _), ?_⟩
    rintro n ⟨⟩
  | anew unconnected sends =>
    rw [unconnected] at visits
    refine ⟨.next visits ((Visit.inUse []).sends sends), ?_⟩
    intro m same
    rw [sends.client_eq same]

theorem tracks_step {before after : Session W} {request : Request} {calls later : List ClientCall}
    (tracks : Tracks before calls) (step : Step before request later after) : Tracks after (calls ++ later) := by
  cases step with
  | idle client made _ =>
    rw [List.append_nil]
    exact ⟨by rw [isConnected, client, made]; exact tracks.visits, by rw [client, made]; exact tracks.last⟩
  | connected _ attempt _ | executed _ attempt _ | entered _ attempt _ =>
    obtain ⟨visits, last⟩ := tracks.attempt attempt
    exact ⟨visits, last⟩
  | @closed n _ _ connected client made _ =>
    obtain ⟨visits, last⟩ := tracks
    rw [last n connected, isConnected, connected] at visits
    refine ⟨?_, ?_⟩
    · rw [made, last n connected, isConnected, client]
      exact visits.extend fun _ visit => visit.shutdown _
    · rw [client]
      rintro m ⟨⟩

variable (cluster : Cluster W) (config : Config)

/-- After any requests, however the clients answer, the calls are visits of the
    clients in the order in which they were made, and the session is connected
    exactly when the last of them connected and was not told to shut down. -/
theorem client_visits (requests : List Request) (world : W) :
    let after := Operation.run (perform cluster config) requests (start world)
    Visits after.state.made after.calls after.state.isConnected ∧
      (after.state.isConnected = true ↔ ∃ n, after.state.made = n + 1 ∧ .connect n none ∈ after.calls ∧
        ∀ stopped, .shutdown n stopped ∉ after.calls) := by
  intro after
  have tracks : Tracks after.state after.calls := by
    refine Operation.run_preserves (fun request _ before _ tracks => ?_) (tracks_start world)
    exact tracks_step tracks (step_perform cluster config request before)
  exact ⟨tracks.visits, tracks.visits.inUse_iff⟩

end Session

end CqlTable
