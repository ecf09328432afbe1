import CqlTable.Log
import CqlTable.Number.Places
import CqlTable.Statement.Reading
import CqlTable.Text.Pieces

/-!
# Logged statements: one record a statement

The message of a record has three lines for a terminal: kind and table, the
statement on one line, and how long it took for how many rows. Slow statements
show in another colour.
-/

namespace CqlTable

open Text

/-- Ways to show text on a terminal. -/
inductive Ink
  | plain
  | bold
  | dim
  | green
  | yellow
  | blue
  | magenta
  | cyan
  | white
  deriving DecidableEq

/-- The code of an ink. -/
def Ink.code : Ink → Nat
  | plain => 0
  | bold => 1
  | dim => 2
  | green => 32
  | yellow => 33
  | blue => 34
  | magenta => 35
  | cyan => 36
  | white => 37

/-- The control text that switches an ink on. -/
def Ink.on (ink : Ink) : String := "\x1b[" ++ numeral ink.code ++ "m"

/-- A text in inks, and plain again after it. -/
def inked (inks : List Ink) (s : String) : String :=
  String.join (inks.map Ink.on) ++ s ++ Ink.plain.on

/-- The ink of a kind of statement. -/
def StatementKind.ink : StatementKind → Ink
  | select => .cyan
  | insert => .green
  | update => .yellow
  | create => .blue
  | delete | drop | truncate => .magenta
  | use | query => .white

/-- The ink of a duration: above a hundred milliseconds, above fifty, or
    below. -/
def durationInk (ms : Double) : Ink :=
  if ms.above 100 then .yellow else if ms.above 50 then .dim else .green

/-- The lines of a statement that took `ms` milliseconds. -/
def loggedLines (cql : String) (ms rows : Double) : List String :=
  let kind := StatementKind.ofText cql
  [inked [.dim] "┌──" ++ " " ++ inked [kind.ink, .bold] kind.word ++ " " ++ inked [.dim] (tableName cql),
    inked [.dim] "│" ++ " " ++ oneLine cql,
    inked [.dim] "└──" ++ " " ++ inked [durationInk ms] (ms.fixedText 2 ++ "ms") ++ " " ++
      inked [.dim] ("(" ++ rows.text ++ " rows)")]

/-- The record of a statement that took `ms` milliseconds, which it holds
    rounded to two places. -/
def loggedStatement (writer : List (String × String)) (cql : String) (ms rows : Double) : LogRecord where
  level := .info
  writer := writer
  data := some [("queryType", .string (StatementKind.ofText cql).word),
    ("table", .string (tableName cql)), ("durationMs", .number (ms.roundPlaces 2)),
    ("rowCount", .number rows)]
  message := join "\n" (loggedLines cql ms rows)

end CqlTable
