/-!
# Named entries: lists with one value a name

Entries keep the order in which their names first came; a name that comes
again replaces the value in its place.
-/

namespace CqlTable

/-- Entries in order. -/
abbrev Named (α : Type) := List (String × α)

namespace Named

variable {α : Type}

/-- The value of a name. -/
def get? (name : String) : Named α → Option α
  | [] => none
  | (key, value) :: rest => if key = name then some value else get? name rest

/-- A value put under a name: in the place of an earlier value, or at the
    end. -/
def put (name : String) (value : α) : Named α → Named α
  | [] => [(name, value)]
  | (key, old) :: rest =>
    if key = name then (key, value) :: rest else (key, old) :: put name value rest

/-- Entries one after the other, of which later ones replace earlier ones of
    their name. -/
def ofPairs (pairs : List (String × α)) : Named α :=
  pairs.foldl (fun entries pair => put pair.1 pair.2 entries) []

/-- The names, in order. -/
def names (entries : Named α) : List String := entries.map (·.1)

end Named

end CqlTable
