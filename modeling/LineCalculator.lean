import LineCalculator.Channel
import LineCalculator.CommandLine
import LineCalculator.Diagnostic
import LineCalculator.Directory
import LineCalculator.Environment
import LineCalculator.Evaluation
import LineCalculator.Event
import LineCalculator.Expr
import LineCalculator.Fault
import LineCalculator.Filter
import LineCalculator.Grammar
import LineCalculator.Item
import LineCalculator.LineError
import LineCalculator.Main
import LineCalculator.Number.Binary64
import LineCalculator.Number.Decimal
import LineCalculator.Number.Numeral
import LineCalculator.Number.Rounding
import LineCalculator.Number.Shortest
import LineCalculator.Number.Text
import LineCalculator.ParseError
import LineCalculator.Pattern
import LineCalculator.Pattern.Bracket
import LineCalculator.Pattern.CharSet
import LineCalculator.Pattern.Complaint
import LineCalculator.Pattern.Cursor
import LineCalculator.Pattern.Encoding
import LineCalculator.Pattern.Escape
import LineCalculator.Pattern.Matcher
import LineCalculator.Pattern.Meaning
import LineCalculator.Pattern.Nesting
import LineCalculator.Pattern.Reader
import LineCalculator.Pattern.Search
import LineCalculator.Pattern.Size
import LineCalculator.Pattern.Syntax
import LineCalculator.Program
import LineCalculator.Record
import LineCalculator.Scan
import LineCalculator.Segment
import LineCalculator.Session
import LineCalculator.Session.Interactive
import LineCalculator.Session.Reader
import LineCalculator.Settings
import LineCalculator.Settings.File
import LineCalculator.Settings.Value
import LineCalculator.Span
import LineCalculator.Summary
import LineCalculator.Text.Bytes
import LineCalculator.Text.Grapheme
import LineCalculator.Text.Letters
import LineCalculator.Text.Lines
import LineCalculator.Text.Quoted
import LineCalculator.Text.Ranges
import LineCalculator.Text.Role
import LineCalculator.Text.Shapeless
import LineCalculator.Text.Typing
import LineCalculator.Text.WhiteSpace
import LineCalculator.Token
import LineCalculator.Proofs.Grammar.Derivation
import LineCalculator.Proofs.Grammar.Parse
import LineCalculator.Proofs.Grammar.Refusal
import LineCalculator.Proofs.Grammar.Culprit
import LineCalculator.Proofs.Grammar.Printing
import LineCalculator.Proofs.Grammar.Parentheses
import LineCalculator.Proofs.Number.Bits
import LineCalculator.Proofs.Number.Literal
import LineCalculator.Proofs.Scan.Placement
import LineCalculator.Proofs.Evaluation.Assignments
import LineCalculator.Proofs.Evaluation.StackMachine
import LineCalculator.Proofs.Evaluation.Reads
import LineCalculator.Proofs.Evaluation.Dependence
import LineCalculator.Proofs.Evaluation.Independence
import LineCalculator.Proofs.Session.Lines
import LineCalculator.Proofs.Session.Effects
import LineCalculator.Proofs.Session.Variables
import LineCalculator.Proofs.Session.Failures
import LineCalculator.Proofs.Session.Positions
import LineCalculator.Proofs.Session.Transcript
import LineCalculator.Proofs.Text.Lines
import LineCalculator.Proofs.Session.Messages
import LineCalculator.Proofs.Session.Modes
import LineCalculator.Proofs.Scan.Insertion
import LineCalculator.Proofs.Grammar.Places
import LineCalculator.Proofs.Scan.Masking
import LineCalculator.Proofs.Scan.Rendering
import LineCalculator.Proofs.Session.Reports
import LineCalculator.Proofs.Session.Respacing
import LineCalculator.Proofs.Session.Accounting
import LineCalculator.Proofs.Session.Cutting
import LineCalculator.Proofs.Session.ErrorChannel
import LineCalculator.Proofs.Session.Truncation
import LineCalculator.Proofs.Program.InteractiveRun
import LineCalculator.Proofs.Number.Display
import LineCalculator.Proofs.Number.Grid
import LineCalculator.Proofs.Number.Reading
import LineCalculator.Proofs.Number.Comparison
import LineCalculator.Proofs.Number.Order
import LineCalculator.Proofs.Session.Retyping
import LineCalculator.Proofs.Session.LineEnds
import LineCalculator.Proofs.Scan.Stretches
import LineCalculator.Proofs.Grammar.Cursor
import LineCalculator.Proofs.Session.Log
import LineCalculator.Proofs.Session.Retelling
