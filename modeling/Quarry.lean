import Quarry.Batch
import Quarry.CommandLine
import Quarry.CommandLine.Help
import Quarry.File
import Quarry.File.Host
import Quarry.File.Path
import Quarry.File.Tree
import Quarry.Json.Error
import Quarry.Json.Number
import Quarry.Json.Reader
import Quarry.Json.Skip
import Quarry.Json.Text
import Quarry.Log
import Quarry.LogFilter
import Quarry.Main
import Quarry.Number.Binary64
import Quarry.Number.Integer
import Quarry.Number.Numeral
import Quarry.Number.Shortest
import Quarry.Pattern
import Quarry.Pattern.Basic
import Quarry.Pattern.Class
import Quarry.Pattern.Cursor
import Quarry.Pattern.Depth
import Quarry.Pattern.Error
import Quarry.Pattern.Escape
import Quarry.Pattern.Reader
import Quarry.Pattern.Support
import Quarry.Program
import Quarry.Program.Failure
import Quarry.Proofs.Agreement
import Quarry.Proofs.Ambiguity
import Quarry.Proofs.Answers
import Quarry.Proofs.Arguments
import Quarry.Proofs.Balance
import Quarry.Proofs.Batch
import Quarry.Proofs.Concatenation
import Quarry.Proofs.Conditions
import Quarry.Proofs.Delimiters
import Quarry.Proofs.Dump
import Quarry.Proofs.Encoding
import Quarry.Proofs.Escaping
import Quarry.Proofs.FirstGroup
import Quarry.Proofs.Grammar
import Quarry.Proofs.History
import Quarry.Proofs.IntegerText
import Quarry.Proofs.Interpolation
import Quarry.Proofs.JsonErrors
import Quarry.Proofs.JsonSteps
import Quarry.Proofs.JsonValue
import Quarry.Proofs.Lines
import Quarry.Proofs.ListText
import Quarry.Proofs.Literal
import Quarry.Proofs.Loading
import Quarry.Proofs.Meaning
import Quarry.Proofs.Members
import Quarry.Proofs.Messages
import Quarry.Proofs.Mismatch
import Quarry.Proofs.Negation
import Quarry.Proofs.Nesting
import Quarry.Proofs.NumberLiteral
import Quarry.Proofs.Numeral
import Quarry.Proofs.ObjectText
import Quarry.Proofs.OneShot
import Quarry.Proofs.Outcome
import Quarry.Proofs.Pieces
import Quarry.Proofs.Posting
import Quarry.Proofs.Presentation
import Quarry.Proofs.Printing
import Quarry.Proofs.QueryErrors
import Quarry.Proofs.QueryLog
import Quarry.Proofs.Reading
import Quarry.Proofs.RecordText
import Quarry.Proofs.Rendering
import Quarry.Proofs.Reordering
import Quarry.Proofs.Replay
import Quarry.Proofs.Selection
import Quarry.Proofs.Serving
import Quarry.Proofs.SettingsText
import Quarry.Proofs.TextLiteral
import Quarry.Proofs.TrailingReturn
import Quarry.Proofs.Upsert
import Quarry.Proofs.WriteLog
import Quarry.Query.Basic
import Quarry.Query.Error
import Quarry.Query.Group
import Quarry.Query.Printer
import Quarry.Query.Reader
import Quarry.Query.Selection
import Quarry.Record
import Quarry.Record.Json
import Quarry.Request
import Quarry.Session
import Quarry.Settings
import Quarry.Shell
import Quarry.Store
import Quarry.Text.Alphanumeric
import Quarry.Text.Blank
import Quarry.Text.Bytes
import Quarry.Text.Lines
import Quarry.Text.Property
import Quarry.Text.Quoted
import Quarry.Text.Split
import Quarry.Text.Visible
