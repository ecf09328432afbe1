import CqlTable.Text.Blank
import CqlTable.Text.Pieces
import CqlTable.Text.LetterCase
import CqlTable.Text.Utf8
import CqlTable.Text.Units
import CqlTable.Text.Numeral
import CqlTable.Number.Double
import CqlTable.Number.Places
import CqlTable.Number.Reading
import CqlTable.Calendar.DateText
import CqlTable.Calendar.DateToken
import CqlTable.Json.Parser
import CqlTable.Json.Printer
import CqlTable.Validation
import CqlTable.Schema.Checked
import CqlTable.Value.Row
import CqlTable.Conversion.Decode
import CqlTable.Statement.Building
import CqlTable.Statement.Reading
import CqlTable.Result.Rows
import CqlTable.Result.Position
import CqlTable.Config.Parameters
import CqlTable.Config.Loading
import CqlTable.Cell
import CqlTable.Session.Basic
import CqlTable.Session.Scripted
import CqlTable.Handle.Requests
import CqlTable.Proofs.Text.Numerals
import CqlTable.Proofs.Text.Hex
import CqlTable.Proofs.Text.Trimming
import CqlTable.Proofs.Named
import CqlTable.Proofs.Text.LetterCase
import CqlTable.Proofs.Calendar.Dates
import CqlTable.Proofs.Number.Rounding
import CqlTable.Proofs.Number.Integers
import CqlTable.Proofs.Number.ShortestNumerals
import CqlTable.Proofs.Number.Overflow
import CqlTable.Proofs.Number.ReadBack
import CqlTable.Proofs.Number.DecimalText
import CqlTable.Proofs.Number.Grammar
import CqlTable.Proofs.Number.SignificantDigits
import CqlTable.Proofs.Calendar.Instants
import CqlTable.Proofs.Calendar.Counting
import CqlTable.Proofs.Conversion.Basic
import CqlTable.Proofs.Conversion.Fields
import CqlTable.Proofs.Conversion.Timestamps
import CqlTable.Proofs.Conversion.EpochMillis
import CqlTable.Proofs.Validation
import CqlTable.Proofs.Schema.Documents
import CqlTable.Proofs.Schema.Accepted
import CqlTable.Proofs.Schema.ReadAgain
import CqlTable.Proofs.Statement.Scanner
import CqlTable.Proofs.Statement.Terms
import CqlTable.Proofs.Statement.Words
import CqlTable.Proofs.Conversion.Literals
import CqlTable.Proofs.Conversion.Null
import CqlTable.Proofs.Conversion.NullCells
import CqlTable.Proofs.Statement.Structure
import CqlTable.Proofs.Conversion.RoundTrip
import CqlTable.Proofs.Conversion.CalendarText
import CqlTable.Proofs.Conversion.Cells
import CqlTable.Proofs.Conversion.Integers
import CqlTable.Proofs.Conversion.NonFinite
import CqlTable.Proofs.Conversion.SinglePrecision
import CqlTable.Proofs.Conversion.LiteralForms
import CqlTable.Proofs.Conversion.Targets
import CqlTable.Proofs.Conversion.InstantColumns
import CqlTable.Proofs.Result.Columns
import CqlTable.Proofs.Result.Layout
import CqlTable.Proofs.Value.Rows
import CqlTable.Proofs.Statement.Dependence
import CqlTable.Proofs.Statement.Addressing
import CqlTable.Proofs.Statement.Refusals
import CqlTable.Proofs.Statement.KeyParts
import CqlTable.Proofs.Statement.KeyClause
import CqlTable.Proofs.Statement.KeyOrder
import CqlTable.Proofs.Result.WriteBack
import CqlTable.Proofs.Result.Positions
import CqlTable.Proofs.Session.Runs
import CqlTable.Proofs.Session.Records
import CqlTable.Proofs.Session.Sending
import CqlTable.Proofs.Session.LifeCycle
import CqlTable.Proofs.Session.Keyspace
import CqlTable.Proofs.Session.Faults
import CqlTable.Proofs.Handle.Statements
import CqlTable.Proofs.Handle.Sending
import CqlTable.Proofs.Handle.LookUp
import CqlTable.Proofs.Handle.Reading
import CqlTable.Proofs.Handle.Scan
import CqlTable.Proofs.Handle.Failures
import CqlTable.Proofs.Handle.References
import CqlTable.Proofs.Handle.Creation
import CqlTable.Proofs.Handle.Strictness
import CqlTable.Proofs.Config.Parameters
import CqlTable.Proofs.Config.Settings
import CqlTable.Proofs.Json.Paths
import CqlTable.Proofs.Config.Merging
import CqlTable.Proofs.Config.Loading
import CqlTable.Proofs.Statement.TableNames
