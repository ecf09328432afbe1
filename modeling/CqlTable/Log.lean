import CqlTable.Json.Basic
import CqlTable.Text.Blank
import CqlTable.Text.LetterCase

/-!
# Log records and levels
-/

namespace CqlTable

/-- The level of a record or of a log. -/
inductive LogLevel
  | trace
  | debug
  | info
  | warn
  | error
  | fatal
  | silent
  deriving DecidableEq

namespace LogLevel

/-- The word for a level. -/
def name : LogLevel → String
  | trace => "trace"
  | debug => "debug"
  | info => "info"
  | warn => "warn"
  | error => "error"
  | fatal => "fatal"
  | silent => "silent"

/-- All levels, from the least. -/
def all : List LogLevel := [trace, debug, info, warn, error, fatal, silent]

/-- The level of a log: what is asked for, else what the environment asks for.
    A word that names no level stands for `info`. -/
def resolve (requested environment : Option String) : LogLevel :=
  match requested.or environment with
  | none => info
  | some word => (all.find? fun level => level.name == Text.lower (Text.trim word)).getD info

end LogLevel

/-- A record: who writes it, its data and its message. -/
structure LogRecord where
  level : LogLevel
  writer : List (String × String)
  data : Option (List (String × Json))
  message : String

/-- Texts as a document. -/
def Json.ofTexts (texts : List String) : Json := .array (texts.map .string)

/-- A count as a document. -/
def Json.ofNat (n : Nat) : Json := .number (Double.ofNat n)

end CqlTable
