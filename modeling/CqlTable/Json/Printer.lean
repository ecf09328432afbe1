import CqlTable.Json.Basic
import CqlTable.Number.Shortest
import CqlTable.Text.Hex
import CqlTable.Text.Pieces

/-!
# Writing JSON: documents as compact text

Members and items are separated by commas alone. A number that is not finite
is written as `null`.
-/

namespace CqlTable.Json

open Text

/-- A character inside a string: quotes, backslashes and control characters
    are escaped. -/
def escapeChar (c : Char) : List Char :=
  if c = '"' then ['\\', '"']
  else if c = '\\' then ['\\', '\\']
  else if c.toNat = 8 then ['\\', 'b']
  else if c.toNat = 9 then ['\\', 't']
  else if c.toNat = 10 then ['\\', 'n']
  else if c.toNat = 12 then ['\\', 'f']
  else if c.toNat = 13 then ['\\', 'r']
  else if c.toNat < 0x20 then ['\\', 'u', '0', '0', hexDigit (c.toNat / 16), hexDigit (c.toNat % 16)]
  else [c]

/-- A string between quotes. -/
def quote (s : String) : String := "\"" ++ String.ofList (s.toList.flatMap escapeChar) ++ "\""

mutual

/-- The text of a document. -/
def print : Json → String
  | null => "null"
  | boolean b => if b then "true" else "false"
  | number d => if d.isFinite then d.text else "null"
  | string s => quote s
  | array items => "[" ++ join "," (printItems items) ++ "]"
  | object members => "\x7b" ++ join "," (printMembers members) ++ "\x7d"

/-- The texts of items. -/
def printItems : List Json → List String
  | [] => []
  | item :: rest => print item :: printItems rest

/-- The texts of members. -/
def printMembers : List (String × Json) → List String
  | [] => []
  | (name, value) :: rest => (quote name ++ ":" ++ print value) :: printMembers rest

end

mutual

/-- How a document shows inside a message: strings as they are, arrays as their
    items between commas, objects as a fixed word. -/
def shown : Json → String
  | null => "null"
  | boolean b => if b then "true" else "false"
  | number d => d.text
  | string s => s
  | array items => join "," (shownItems items)
  | object _ => "[object Object]"

/-- How items show; `null` as nothing. -/
def shownItems : List Json → List String
  | [] => []
  | null :: rest => "" :: shownItems rest
  | item :: rest => shown item :: shownItems rest

end

end CqlTable.Json
