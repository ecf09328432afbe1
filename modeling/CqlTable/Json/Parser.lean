import CqlTable.Json.Basic
import CqlTable.Number.Reading
import CqlTable.Text.Utf8

/-!
# Reading JSON: strict documents

Only the four JSON blanks separate tokens, nothing may follow the document, and
a byte order mark is no blank.
-/

namespace CqlTable.Json

open Text Number

/-- The blanks between tokens. -/
def isGap (c : Char) : Bool := c = ' ' || c = '\t' || c = '\n' || c = '\r'

/-- What follows the blanks. -/
def skipGap (cs : List Char) : List Char := cs.dropWhile isGap

/-- What follows a word. -/
def afterWord? (word : List Char) (cs : List Char) : Option (List Char) :=
  if word.isPrefixOf cs then some (cs.drop word.length) else none

/-- A sixteen bit unit of four hexadecimal digits. -/
def unit? : List Char → Option (Nat × List Char)
  | a :: b :: c :: d :: rest =>
    match hexValue? a, hexValue? b, hexValue? c, hexValue? d with
    | some a, some b, some c, some d => some (4096 * a + 256 * b + 16 * c + d, rest)
    | _, _, _, _ => none
  | _ => none

/-- The character of an escaped unit, together with the low half of a pair
    when one follows; half a pair alone is a replacement character. -/
def unitChar (n : Nat) (rest : List Char) : Char × List Char :=
  if 0xD800 ≤ n ∧ n ≤ 0xDBFF then
    match rest with
    | '\\' :: 'u' :: more =>
      match unit? more with
      | some (low, more) =>
        if 0xDC00 ≤ low ∧ low ≤ 0xDFFF then
          (Char.ofNat (0x10000 + 0x400 * (n - 0xD800) + (low - 0xDC00)), more)
        else (replacement, rest)
      | none => (replacement, rest)
    | _ => (replacement, rest)
  else if 0xDC00 ≤ n ∧ n ≤ 0xDFFF then (replacement, rest)
  else (Char.ofNat n, rest)

/-- The characters of a string up to its closing quote; `fuel` is at least the
    number of characters left. -/
def stringFrom (fuel : Nat) (cs : List Char) : Option (List Char × List Char) :=
  match fuel with
  | 0 => none
  | fuel + 1 =>
    let also (c : Char) (rest : List Char) :=
      (stringFrom fuel rest).map fun (text, rest) => (c :: text, rest)
    match cs with
    | [] => none
    | '"' :: rest => some ([], rest)
    | '\\' :: 'u' :: rest =>
      match unit? rest with
      | some (n, rest) => also (unitChar n rest).1 (unitChar n rest).2
      | none => none
    | '\\' :: c :: rest =>
      if c = '"' ∨ c = '\\' ∨ c = '/' then also c rest
      else if c = 'b' then also '\x08' rest
      else if c = 'f' then also '\x0c' rest
      else if c = 'n' then also '\n' rest
      else if c = 'r' then also '\r' rest
      else if c = 't' then also '\t' rest
      else none
    | c :: rest => if c.toNat < 0x20 ∨ c = '\\' then none else also c rest

/-- An exponent part with at least one digit, or none. -/
def exponentFrom : List Char → Option (Int × List Char)
  | c :: rest =>
    if c = 'e' ∨ c = 'E' then
      let (negative, rest) := takeSign rest
      let (ds, rest) := takeDigits rest
      if ds.isEmpty then none
      else some (if negative then -(numeralValue ds : Int) else numeralValue ds, rest)
    else some (0, c :: rest)
  | [] => some (0, [])

/-- A number: a minus sign, digits without a leading zero, a fraction and an
    exponent. -/
def numberFrom (cs : List Char) : Option (Double × List Char) :=
  let (negative, cs) := match cs with
    | '-' :: rest => (true, rest)
    | cs => (false, cs)
  let (whole, rest) := takeDigits cs
  if whole.isEmpty ∨ (whole.head? = some '0' ∧ whole.length ≠ 1) then none
  else
    match rest with
    | '.' :: rest =>
      let (fraction, rest) := takeDigits rest
      if fraction.isEmpty then none
      else (exponentFrom rest).map fun (e, rest) => (ofParts negative whole fraction e, rest)
    | rest => (exponentFrom rest).map fun (e, rest) => (ofParts negative whole [] e, rest)

mutual

/-- A value and what follows it; `fuel` is above the number of characters
    left. -/
def valueFrom (fuel : Nat) (cs : List Char) : Option (Json × List Char) :=
  match fuel with
  | 0 => none
  | fuel + 1 =>
    match skipGap cs with
    | '\x7b' :: rest =>
      match skipGap rest with
      | '\x7d' :: rest => some (object [], rest)
      | rest => (membersFrom fuel [] rest).map fun (members, rest) => (object members, rest)
    | '[' :: rest =>
      match skipGap rest with
      | ']' :: rest => some (array [], rest)
      | rest => (itemsFrom fuel rest).map fun (items, rest) => (array items, rest)
    | '"' :: rest => (stringFrom (rest.length + 1) rest).map fun (s, rest) => (string (String.ofList s), rest)
    | 'n' :: rest => (afterWord? "ull".toList rest).map fun rest => (null, rest)
    | 't' :: rest => (afterWord? "rue".toList rest).map fun rest => (boolean true, rest)
    | 'f' :: rest => (afterWord? "alse".toList rest).map fun rest => (boolean false, rest)
    | rest => (numberFrom rest).map fun (d, rest) => (number d, rest)

/-- Items up to the closing bracket, at least one. -/
def itemsFrom (fuel : Nat) (cs : List Char) : Option (List Json × List Char) :=
  match fuel with
  | 0 => none
  | fuel + 1 =>
    match valueFrom fuel cs with
    | none => none
    | some (item, rest) =>
      match skipGap rest with
      | ']' :: rest => some ([item], rest)
      | ',' :: rest => (itemsFrom fuel rest).map fun (items, rest) => (item :: items, rest)
      | _ => none

/-- Members up to the closing brace, at least one, after those read so far. -/
def membersFrom (fuel : Nat) (sofar : Named Json) (cs : List Char) : Option (Named Json × List Char) :=
  match fuel with
  | 0 => none
  | fuel + 1 =>
    match skipGap cs with
    | '"' :: rest =>
      match stringFrom (rest.length + 1) rest with
      | none => none
      | some (name, rest) =>
        match skipGap rest with
        | ':' :: rest =>
          match valueFrom fuel rest with
          | none => none
          | some (value, rest) =>
            let members := Named.put (String.ofList name) value sofar
            match skipGap rest with
            | '\x7d' :: rest => some (members, rest)
            | ',' :: rest => membersFrom fuel members rest
            | _ => none
        | _ => none
    | _ => none

end

/-- The document that a text is, if it is one. -/
def parse? (s : String) : Option Json :=
  match valueFrom (s.toList.length + 1) s.toList with
  | some (document, rest) => if (skipGap rest).isEmpty then some document else none
  | none => none

end CqlTable.Json
