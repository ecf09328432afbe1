/-!
# Blank characters and trimming

White space of every text that this library reads, and texts without the
white space at their ends.
-/

namespace CqlTable.Text

/-- White space and line ends: the ASCII blanks, the no-break space, the byte
    order mark, the space separators and the two line separators. -/
def isBlank (c : Char) : Bool :=
  let n := c.toNat
  (9 ≤ n && n ≤ 13) || n == 0x20 || n == 0xA0 || n == 0x1680 || (0x2000 ≤ n && n ≤ 0x200A) ||
    n == 0x2028 || n == 0x2029 || n == 0x202F || n == 0x205F || n == 0x3000 || n == 0xFEFF

/-- What is left when the blanks at the end are taken off. -/
def trimEndChars (cs : List Char) : List Char := (cs.reverse.dropWhile isBlank).reverse

/-- What is left when the blanks at both ends are taken off. -/
def trimChars (cs : List Char) : List Char := trimEndChars (cs.dropWhile isBlank)

/-- A text without the blanks at its ends. -/
def trim (s : String) : String := String.ofList (trimChars s.toList)

end CqlTable.Text
