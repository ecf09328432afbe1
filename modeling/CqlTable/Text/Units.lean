/-!
# Text measured in sixteen bit units

Characters past the first plane count two units.
-/

namespace CqlTable.Text

/-- Units of one character. -/
def unitsOf (c : Char) : Nat := if c.toNat < 0x10000 then 1 else 2

/-- Units of a text. -/
def units (s : String) : Nat := s.toList.foldl (fun n c => n + unitsOf c) 0

/-- The characters that lie whole within the first `room` units. -/
def takeUnits (room : Nat) : List Char → List Char
  | [] => []
  | c :: rest => if unitsOf c ≤ room then c :: takeUnits (room - unitsOf c) rest else []

/-- A text of at most `room` units, with three dots after what was cut. -/
def shorten (room : Nat) (s : String) : String :=
  if room < units s then String.ofList (takeUnits room s.toList) ++ "..." else s

end CqlTable.Text
