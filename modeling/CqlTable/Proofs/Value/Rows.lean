import CqlTable.Proofs.Result.Columns
import CqlTable.Proofs.Text.LetterCase
import CqlTable.Value.Row

/-!
# Rows: values under respelled names

Where the names of a row are distinct but for letter case, a column has the one
value under its name in any spelling, whichever way it is looked up. Such rows
hold the same values when one is a respelling of the other.
-/

namespace CqlTable

/-! ## Spellings of rows -/

namespace Row

/-- No two names of the row are equal but for letter case. -/
def Distinct (row : Row) : Prop := (row.map fun entry => Text.lower entry.1).Nodup

/-- The rows hold the same values under the same names, up to the order of
    their entries and to the ASCII letter case of their names. -/
def Respelled (row other : Row) : Prop :=
  (row.map fun entry => (Text.foldAscii entry.1, entry.2)).Perm
    (other.map fun entry => (Text.foldAscii entry.1, entry.2))

instance (row : Row) : Decidable row.Distinct := inferInstanceAs (Decidable (List.Nodup _))

instance (row other : Row) : Decidable (row.Respelled other) := inferInstanceAs (Decidable (List.Perm _ _))

/-- The entries of a row with their names in lower case. -/
def lowered (row : Row) : Named Value := row.map fun entry => (Text.lower entry.1, entry.2)

variable {row other : Row}

theorem Distinct.lowered (distinct : row.Distinct) : (row.lowered.map (·.1)).Nodup := by
  rw [Row.lowered, List.map_map]
  exact distinct

theorem Respelled.lowered (respelled : row.Respelled other) : row.lowered.Perm other.lowered := by
  have lower_again (row : Row) :
      ((row.map fun entry => (Text.foldAscii entry.1, entry.2)).map fun entry => (Text.lower entry.1, entry.2)) =
        row.lowered := by
    rw [List.map_map]
    exact List.map_congr_left fun entry _ => by simp [Text.lower_foldAscii]
  rw [← lower_again row, ← lower_again other]
  exact respelled.map _

/-- The look-up by exact name and the search past letter case find the same
    value where names are distinct. -/
theorem value_of_distinct (distinct : row.Distinct) (column : String) :
    row.value column = (row.lowered.get? (Text.lower column)).getD .missing := by
  have own {name : String} {value : Value} (inside : (name, value) ∈ row)
      (same : Text.lower name = Text.lower column) : row.lowered.get? (Text.lower column) = some value :=
    get_of_mem distinct.lowered (List.mem_map.mpr ⟨_, inside, by rw [same]⟩)
  unfold Row.value
  cases exact : Named.get? column row with
  | some value => simp [own (mem_of_get exact) rfl]
  | none =>
    cases found : row.find? fun entry => Text.sameName entry.1 column with
    | some entry =>
      have same : Text.lower entry.1 = Text.lower column := by
        simpa [Text.sameName] using List.find?_some found
      simp [own (List.mem_of_find?_eq_some found) same]
    | none =>
      have absent : row.lowered.get? (Text.lower column) = none := by
        rw [Option.eq_none_iff_forall_ne_some]
        intro value present
        obtain ⟨entry, inside, same⟩ := List.mem_map.mp (mem_of_get present)
        have unlike := List.find?_eq_none.mp found entry inside
        exact unlike (by simpa [Text.sameName] using congrArg Prod.fst same)
      simp [absent]

/-- A respelled row has the same value for each column. -/
theorem Respelled.value (respelled : row.Respelled other) (distinct : row.Distinct) (column : String) :
    other.value column = row.value column := by
  have distinctOther : other.Distinct := by
    have names := (respelled.lowered.map (·.1)).nodup_iff.mp distinct.lowered
    rwa [Row.lowered, List.map_map] at names
  rw [value_of_distinct distinct, value_of_distinct distinctOther, get_of_perm distinct.lowered respelled.lowered]

end Row

end CqlTable
