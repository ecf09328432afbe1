import CqlTable.Text.CaseData

/-!
# Letter case: lower case texts and upper case beginnings

Names are compared by their lower case forms, and the first word of a
statement by its upper case form.
-/

namespace CqlTable.Text

/-- Whether a code point lies in one of the ranges. -/
def inRanges (ranges : List (Nat × Nat)) (n : Nat) : Bool :=
  ranges.any fun range => range.1 ≤ n && n ≤ range.2

/-- Whether a letter has case, for the rule on a final sigma. -/
def isCased (c : Char) : Bool := inRanges casedRanges c.toNat

/-- Whether the rule on a final sigma looks past a character. -/
def isCaseIgnorable (c : Char) : Bool := inRanges caseIgnorableRanges c.toNat

/-- Whether the nearest character that counts is a letter with case. -/
def meetsCased : List Char → Bool
  | [] => false
  | c :: rest => if isCaseIgnorable c then meetsCased rest else isCased c

/-- An ASCII capital as its small letter, any other character as itself. -/
def lowerAscii (c : Char) : Char :=
  if 'A' ≤ c ∧ c ≤ 'Z' then Char.ofNat (c.toNat + 32) else c

/-- The lower case form of one character, without regard to its neighbours. -/
def lowerOne (c : Char) : List Char :=
  if c.toNat < 128 then [lowerAscii c]
  else if c.toNat = 0x130 then ['i', '\u0307']
  else match lowerRuns.find? fun run =>
      run.first ≤ c.toNat && c.toNat ≤ run.last && (c.toNat - run.first) % run.step == 0 with
    | some run => [Char.ofNat (c.toNat + run.offset).toNat]
    | none => [c]

/-- Lower case form after the characters of `before`, nearest first. A capital
    sigma is final between a letter with case and none. -/
def lowerFrom (before : List Char) : List Char → List Char
  | [] => []
  | c :: rest =>
    (if c = 'Σ' then [if meetsCased before && !meetsCased rest then 'ς' else 'σ'] else lowerOne c) ++
      lowerFrom (c :: before) rest

/-- The lower case form of a text. -/
def lower (s : String) : String := String.ofList (lowerFrom [] s.toList)

/-- Whether two texts are equal but for letter case. -/
def sameName (a b : String) : Bool := lower a == lower b

/-- An ASCII small letter as its capital, any other character as itself. -/
def upperAscii (c : Char) : Char :=
  if 'a' ≤ c ∧ c ≤ 'z' then Char.ofNat (c.toNat - 32) else c

/-- The upper case form of one character where it begins with an ASCII letter,
    and otherwise the character itself. -/
def upperOne (c : Char) : List Char :=
  if c.toNat < 128 then [upperAscii c]
  else match upperToLatin.find? fun entry => entry.1 == c.toNat with
    | some entry => entry.2.map Char.ofNat
    | none => [c]

/-- Whether the upper case form of a text begins with a word of ASCII
    capitals. Characters whose upper case form begins past ASCII cannot take
    part in such a word. -/
def upperStartsWith (word : String) (cs : List Char) : Bool :=
  word.toList.isPrefixOf (cs.flatMap upperOne)

end CqlTable.Text
