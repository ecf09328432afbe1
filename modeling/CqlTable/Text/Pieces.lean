/-!
# Pieces of a text: splitting and joining

Splitting at a character keeps empty pieces, so joining the pieces with that
character gives the text again.
-/

namespace CqlTable.Text

/-- The pieces between the occurrences of `mark`; always at least one. -/
def splitChars (mark : Char) : List Char → List (List Char)
  | [] => [[]]
  | c :: rest =>
    if c = mark then [] :: splitChars mark rest
    else match splitChars mark rest with
      | [] => [[c]]
      | piece :: pieces => (c :: piece) :: pieces

/-- The pieces of a text between the occurrences of `mark`. -/
def split (mark : Char) (s : String) : List String := (splitChars mark s.toList).map String.ofList

/-- Texts one after the other with `mark` between neighbours. -/
def join (mark : String) : List String → String
  | [] => ""
  | [s] => s
  | s :: rest => s ++ mark ++ join mark rest

/-- Whether `part` occurs in a list of characters. -/
def occursIn (part : List Char) : List Char → Bool
  | [] => part.isEmpty
  | c :: rest => part.isPrefixOf (c :: rest) || occursIn part rest

end CqlTable.Text
