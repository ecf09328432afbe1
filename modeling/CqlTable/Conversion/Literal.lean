import CqlTable.Text.Numeral

/-!
# Literals: values inside statements

A quote inside a quoted literal is written twice; all other characters are
written as they are.
-/

namespace CqlTable

/-- A text with each quote twice. -/
def doubleQuotes : List Char → List Char
  | [] => []
  | c :: rest => if c = '\'' then '\'' :: '\'' :: doubleQuotes rest else c :: doubleQuotes rest

/-- A text as the inside of a quoted literal. -/
def escape (s : String) : String := String.ofList (doubleQuotes s.toList)

/-- A literal of a statement. -/
inductive Literal
  | null
  | bare (text : String)
  | quoted (text : String)
  deriving DecidableEq

/-- The text of a literal in a statement. -/
def Literal.text : Literal → String
  | null => "NULL"
  | bare text => text
  | quoted text => "'" ++ escape text ++ "'"

/-- The cell that a literal stores: what is between the quotes of a quoted one,
    with quotes written once. -/
def Literal.cell : Literal → String
  | null => "NULL"
  | bare text => text
  | quoted text => text

end CqlTable
