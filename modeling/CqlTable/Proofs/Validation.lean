import CqlTable.Proofs.Number.ShortestNumerals
import CqlTable.Validation
import Mathlib.Data.List.Forall2

/-!
# Validation: what a valid document has

A check that gives a value found all of its parts valid, and a check that gives
none has at least one issue (`Checked.Explained`). Numbers that are accepted are
doubles, so they can be written again as they are (`IsExact`).
-/

namespace CqlTable

variable {α β : Type}

namespace Checked

theorem map_eq_valid {f : α → β} {a : Checked α} {b : β} : a.map f = .valid b ↔ ∃ x, a = .valid x ∧ f x = b := by
  cases a with
  | valid x => simp [map]
  | invalid issues => simp [map]

theorem ap_eq_valid {f : Checked (α → β)} {a : Checked α} {b : β} :
    f.ap a = .valid b ↔ ∃ g x, f = .valid g ∧ a = .valid x ∧ g x = b := by
  cases f with
  | valid g =>
    cases a with
    | valid x => simp [ap]
    | invalid issues => simp [ap]
  | invalid issues => simp [ap]

/-- The check gives the value when the condition holds, and issues otherwise. -/
structure ValidWhen (a : Checked α) (condition : Prop) (value : α) : Prop where
  valid : condition → a = .valid value
  invalid : ¬ condition → ∃ issues, issues ≠ [] ∧ a = .invalid issues

theorem validWhen_valid (a : α) : (valid a).ValidWhen True a := ⟨fun _ => rfl, fun never => absurd trivial never⟩

theorem ValidWhen.congr {a : Checked α} {p q : Prop} {value : α} (when : a.ValidWhen p value) (same : p ↔ q) :
    a.ValidWhen q value :=
  ⟨fun holds => when.valid (same.mpr holds), fun fails => when.invalid fun holds => fails (same.mp holds)⟩

theorem ValidWhen.map {a : Checked α} {p : Prop} {value : α} (when : a.ValidWhen p value) (f : α → β) :
    (a.map f).ValidWhen p (f value) where
  valid holds := by
    rw [when.valid holds]
    rfl
  invalid fails := by
    obtain ⟨issues, some, isInvalid⟩ := when.invalid fails
    rw [isInvalid]
    exact ⟨issues, some, rfl⟩

theorem ValidWhen.ap {f : Checked (α → β)} {a : Checked α} {p q : Prop} {g : α → β} {value : α}
    (first : f.ValidWhen p g) (second : a.ValidWhen q value) : (f.ap a).ValidWhen (p ∧ q) (g value) where
  valid holds := by
    rw [first.valid holds.1, second.valid holds.2]
    rfl
  invalid fails := by
    by_cases holds : p
    · obtain ⟨issues, some, isInvalid⟩ := second.invalid fun also => fails ⟨holds, also⟩
      rw [first.valid holds, isInvalid]
      exact ⟨issues, some, rfl⟩
    · obtain ⟨issues, some, isInvalid⟩ := first.invalid holds
      rw [isInvalid]
      exact ⟨issues ++ a.issues, by simp [some], rfl⟩

end Checked

/-- The number is a double. -/
def IsExact (n : Nat) : Prop := (Double.ofNat n).toInt? = some (n : Int)

theorem isExact_of_toInt {d : Double} {n : Nat} (integer : d.toInt? = some (n : Int)) : IsExact n := by
  rw [IsExact, Double.ofNat, Double.ofInt_of_toInt integer]
  exact Double.toInt_plainZero integer

theorem isExact_of_le {n : Nat} (small : n ≤ Double.greatestExact) : IsExact n :=
  Double.toInt_ofInt (by simpa using small)

/-- The bound holds of the integer. -/
def LowerBound.Admits : LowerBound → Int → Prop
  | atLeast least, i => least ≤ i
  | positive, i => 0 < i

instance : (bound : LowerBound) → (i : Int) → Decidable (bound.Admits i)
  | .atLeast least, i => inferInstanceAs (Decidable (least ≤ i))
  | .positive, i => inferInstanceAs (Decidable (0 < i))

theorem LowerBound.Admits.nonneg {bound : LowerBound} {i : Int} (admits : bound.Admits i)
    (natural : ¬ bound.Admits (-1)) : 0 ≤ i := by
  cases bound <;> simp only [LowerBound.Admits] at admits natural <;> omega

namespace Check

theorem accept_eq_valid {path : List String} {problems : List Problem} {a b : α} :
    accept path problems a = .valid b ↔ problems = [] ∧ a = b := by
  cases problems with
  | nil => simp [accept]
  | cons problem rest => simp [accept]

theorem accept_validWhen (path : List String) (problems : List Problem) (a : α) :
    (accept path problems a).ValidWhen (problems = []) a where
  valid none := accept_eq_valid.mpr ⟨none, rfl⟩
  invalid some := by
    have notEmpty : problems.isEmpty = false := by simpa using some
    exact ⟨problems.map fun problem => ⟨path, problem⟩, by simpa using some, by simp [accept, notEmpty]⟩

theorem text_eq_valid {problems : String → List Problem} {path : List String} {j : Json} {s : String} :
    text problems path j = .valid s ↔ j = .string s ∧ problems s = [] := by
  cases j with
  | string t =>
    rw [text, accept_eq_valid]
    constructor
    · rintro ⟨none, rfl⟩
      exact ⟨rfl, none⟩
    · rintro ⟨same, none⟩
      cases same
      exact ⟨none, rfl⟩
  | _ => simp [text, wrongKind, Checked.refuse]

theorem identifier_eq_valid {path : List String} {j : Json} {s : String} :
    identifier path j = .valid s ↔ j = .string s ∧ isIdentifier s = true := by
  simp [identifier, text_eq_valid]

theorem required_eq_valid {j : Json} {path : List String} {name : String} {check : Check α} {a : α} :
    required j path name check = .valid a ↔
      ∃ value, j.get? name = some value ∧ check (path ++ [name]) value = .valid a := by
  unfold required member
  cases j.get? name with
  | none => simp [Checked.refuse]
  | some value => simp

theorem items_eq_valid {item : Check α} {path : List String} {position : Nat} {js : List Json} {values : List α}
    (valid : items item path position js = .valid values) :
    List.Forall₂ (fun j a => ∃ place, item place j = .valid a) js values := by
  induction js generalizing position values with
  | nil =>
    cases valid
    exact .nil
  | cons j rest ih =>
    obtain ⟨g, others, first, more, same⟩ := Checked.ap_eq_valid.mp valid
    obtain ⟨a, isA, same'⟩ := Checked.map_eq_valid.mp first
    subst same'
    subst same
    exact .cons ⟨_, isA⟩ (ih more)

theorem list_eq_valid {item : Check α} {path : List String} {j : Json} {values : List α}
    (valid : list item path j = .valid values) :
    ∃ js, j = .array js ∧ List.Forall₂ (fun j a => ∃ place, item place j = .valid a) js values := by
  cases j with
  | array js => exact ⟨js, rfl, items_eq_valid valid⟩
  | _ => simp [list, wrongKind, Checked.refuse] at valid

/-- Items are valid when each of them is. -/
theorem items_validWhen {γ : Type} {item : Check α} {holds : γ → Prop} {value : γ → α} {givens : List γ}
    {js : List Json}
    (each : List.Forall₂ (fun given j => ∀ path, (item path j).ValidWhen (holds given) (value given)) givens js)
    (path : List String) (position : Nat) :
    (items item path position js).ValidWhen (∀ given ∈ givens, holds given) (givens.map value) := by
  induction each generalizing position with
  | nil => exact (Checked.validWhen_valid []).congr (by simp)
  | cons first _ ih =>
    refine (((first _).map List.cons).ap (ih (position + 1))).congr ?_
    exact List.forall_mem_cons.symm

theorem nonEmptyList_eq_valid {item : Check α} {path : List String} {j : Json} {values : List α}
    (valid : nonEmptyList item path j = .valid values) :
    values ≠ [] ∧ ∃ js, j = .array js ∧ List.Forall₂ (fun j a => ∃ place, item place j = .valid a) js values := by
  unfold nonEmptyList at valid
  split at valid
  · cases valid
  · next notEmpty =>
    obtain ⟨js, rfl, each⟩ := list_eq_valid valid
    refine ⟨?_, js, rfl, each⟩
    rintro rfl
    cases each
    exact notEmpty rfl

theorem nonEmptyList_of_ne_nil {item : Check α} {js : List Json} (some : js ≠ []) (path : List String) :
    nonEmptyList item path (.array js) = items item path 0 js := by
  cases js with
  | nil => exact absurd rfl some
  | cons j rest => rfl

theorem nonEmptyText_validWhen (path : List String) (s : String) :
    (nonEmptyText path (.string s)).ValidWhen (s ≠ "") s := by
  refine (accept_validWhen path (if s.isEmpty then [.emptyText] else []) s).congr ?_
  simp

theorem nonEmptyText_eq_valid {path : List String} {j : Json} {s : String} :
    nonEmptyText path j = .valid s ↔ j = .string s ∧ s ≠ "" := by
  simp [nonEmptyText, text_eq_valid]

theorem flag_eq_valid {path : List String} {j : Json} {b : Bool} : flag path j = .valid b ↔ j = .boolean b := by
  cases j <;> simp [flag, wrongKind, Checked.refuse]

theorem choice_eq_valid {choices : List (String × α)} {path : List String} {j : Json} {a : α} :
    choice choices path j = .valid a ↔ ∃ s, j = .string s ∧ Named.get? s choices = some a := by
  cases j with
  | string s => cases found : Named.get? s choices <;> simp [choice, found, Checked.refuse]
  | _ => simp [choice, wrongKind, Checked.refuse]

/-! ## Numbers -/

theorem numberProblems_eq_nil {lower : LowerBound} {greatest : Option Int} {d : Double} :
    numberProblems lower greatest d = [] ↔
      ∃ i, d.toInt? = some i ∧ lower.Admits i ∧ ∀ g ∈ greatest, i ≤ g := by
  cases integer : d.toInt? with
  | none => simp [numberProblems, Double.isInteger, integer]
  | some i =>
    obtain ⟨isFinite, value⟩ := Double.toInt_eq_some_iff.mp integer
    obtain ⟨negative, mantissa, exponent, fits, rfl⟩ := Double.exists_finite isFinite
    cases lower <;> cases greatest <;>
      simp [numberProblems, Double.isInteger, integer, LowerBound.Admits, Double.below, Double.above, value]

/-- A natural number between bounds is accepted as it is. -/
theorem integer_eq_valid {lower : LowerBound} {greatest : Option Int} {path : List String} {j : Json} {n : Nat}
    (natural : ¬ lower.Admits (-1)) : integer lower greatest path j = .valid n ↔
      ∃ d, j = .number d ∧ d.toInt? = some (n : Int) ∧ lower.Admits n ∧ ∀ g ∈ greatest, (n : Int) ≤ g := by
  cases j with
  | number d =>
    rw [integer, accept_eq_valid, numberProblems_eq_nil]
    constructor
    · rintro ⟨⟨i, isInteger, low, high⟩, same⟩
      have isNatural : i = (n : Int) := by
        have := low.nonneg natural
        simp only [isInteger, Option.getD_some] at same
        omega
      subst isNatural
      exact ⟨d, rfl, isInteger, low, high⟩
    · rintro ⟨_, ⟨⟩, isInteger, low, high⟩
      exact ⟨⟨n, isInteger, low, high⟩, by simp [isInteger]⟩
  | _ => simp [integer, wrongKind, Checked.refuse]

/-! ## Members -/

theorem required_of_get {j value : Json} {name : String} (found : j.get? name = some value) (path : List String)
    (check : Check α) : required j path name check = check (path ++ [name]) value := by
  simp only [required, member, found]

theorem defaulted_eq_valid {j : Json} {path : List String} {name : String} {value a : α} {check : Check α} :
    defaulted j path name value check = .valid a ↔
      (j.get? name = none ∧ value = a) ∨ ∃ found, j.get? name = some found ∧ check (path ++ [name]) found = .valid a := by
  unfold defaulted member
  cases j.get? name with
  | none => simp
  | some found => simp

theorem optional_eq_valid {j : Json} {path : List String} {name : String} {a : Option α} {check : Check α} :
    optional j path name check = .valid a ↔ (j.get? name = none ∧ a = none) ∨
      ∃ found x, j.get? name = some found ∧ check (path ++ [name]) found = .valid x ∧ a = some x := by
  unfold optional member
  cases j.get? name with
  | none => simp [eq_comm]
  | some found => simp [Checked.map_eq_valid, eq_comm]

end Check

end CqlTable
