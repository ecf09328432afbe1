import CqlTable.Text.Blank
import CqlTable.Text.Numeral

/-!
# Parts of date texts: numbers, words and marks

A date text is cut into numbers with their widths, words, signs, colons, points
and blanks. What stands in parentheses is one part without a meaning. A text
ends at a character with the code zero.
-/

namespace CqlTable.Calendar

open Text

/-- What a word of a date text stands for. -/
inductive DateWord
  | month (number : Nat)
  | half (hours : Nat)
  | zone (hours : Int)
  | time
  | other
  deriving DecidableEq

/-- A part of a date text. -/
inductive DateToken
  | number (value width : Nat)
  | word (name : DateWord) (width : Nat)
  | sign (negative : Bool)
  | colon
  | point
  | closing
  | blank
  | other
  deriving DecidableEq

/-- Names of the months, from the first. -/
def monthNames : List String :=
  ["jan", "feb", "mar", "apr", "may", "jun", "jul", "aug", "sep", "oct", "nov", "dec"]

/-- Names of zones, and what they are ahead of universal time in hours. -/
def zoneNames : List (String × Int) :=
  [("ut", 0), ("utc", 0), ("z", 0), ("gmt", 0), ("cdt", -5), ("cst", -6), ("edt", -4), ("est", -5),
    ("mdt", -6), ("mst", -7), ("pdt", -7), ("pst", -8)]

/-- The word of letters in any case. A month may be written with more letters
    than its three. -/
def DateWord.ofLetters (letters : List Char) : DateWord :=
  let small := letters.map Char.toLower
  match monthNames.idxOf? (String.ofList (small.take 3)) with
  | some i => .month (i + 1)
  | none =>
    match zoneNames.lookup (String.ofList small) with
    | some hours => .zone hours
    | none =>
      match String.ofList small with
      | "am" => .half 0
      | "pm" => .half 12
      | "t" => .time
      | _ => .other

/-- The number of digits: nine of them count, from the first that is not zero
    on. -/
def DateToken.ofDigits (digits : List Char) : DateToken :=
  .number (numeralValue ((digits.dropWhile (· == '0')).take 9)) digits.length

/-- A part that may go on: characters in reverse, or the depth of parentheses
    that are open. -/
inductive OpenToken
  | digits (read : List Char)
  | letters (read : List Char)
  | enclosed (depth : Nat)
  | closed (token : DateToken)

/-- A character of a word: a letter, or any later in the order of codes that is
    not a space. The line and paragraph separators are no spaces. -/
def isLetterLike (c : Char) : Bool :=
  'A' ≤ c && (!isBlank c || c.toNat = 0x2028 || c.toNat = 0x2029)

/-- The part that a character begins. -/
def OpenToken.start (c : Char) : OpenToken :=
  if isDigit c then .digits [c]
  else if isLetterLike c then .letters [c]
  else if isBlank c then .closed .blank
  else match c with
    | '(' => .enclosed 1
    | ')' => .closed .closing
    | ':' => .closed .colon
    | '.' => .closed .point
    | '+' => .closed (.sign false)
    | '-' => .closed (.sign true)
    | _ => .closed .other

/-- The part together with the next character, if that belongs to it. -/
def OpenToken.extend? (c : Char) : OpenToken → Option OpenToken
  | .digits read => if isDigit c then some (.digits (c :: read)) else none
  | .letters read => if isLetterLike c then some (.letters (c :: read)) else none
  | .enclosed 0 => none
  | .enclosed (depth + 1) =>
    some (.enclosed (if c = '(' then depth + 2 else if c = ')' then depth else depth + 1))
  | .closed _ => none

/-- The part as it stands. -/
def OpenToken.token : OpenToken → DateToken
  | .digits read => .ofDigits read.reverse
  | .letters read => .word (.ofLetters read.reverse) read.length
  | .enclosed _ => .other
  | .closed token => token

/-- The parts of a text whose first part is open. -/
def OpenToken.tokens (first : OpenToken) : List Char → List DateToken
  | [] => [first.token]
  | c :: rest =>
    match first.extend? c with
    | some longer => longer.tokens rest
    | none => first.token :: (OpenToken.start c).tokens rest

/-- The parts of a text. -/
def dateTokens (cs : List Char) : List DateToken :=
  match cs.takeWhile (·.toNat ≠ 0) with
  | [] => []
  | c :: rest => (OpenToken.start c).tokens rest

end CqlTable.Calendar
