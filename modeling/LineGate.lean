import LineGate.Text.Blank
import LineGate.Text.Digit
import LineGate.Text.Word
import LineGate.Text.Printable
import LineGate.Text.Identifier
import LineGate.Text.Case
import LineGate.Text.Quoted
import LineGate.Text.Separated
import LineGate.Text.Lines
import LineGate.Text.Utf8
import LineGate.Number.Double
import LineGate.Number.Numeral
import LineGate.Value.Basic
import LineGate.Value.Fault
import LineGate.Value.Equality
import LineGate.Value.Order
import LineGate.Diagnostic
import LineGate.Environment
import LineGate.Expr.Token
import LineGate.Expr.Syntax
import LineGate.Expr.Parser
import LineGate.Expr.Eval
import LineGate.Condition
import LineGate.Pattern.Syntax
import LineGate.Pattern.Width
import LineGate.Pattern.Reader
import LineGate.Pattern.Parser
import LineGate.Pattern.Search
import LineGate.Directive
import LineGate.Block.Machine
import LineGate.Block.Run
import LineGate.Document
import LineGate.Log.Record
import LineGate.Report
import LineGate.Settings
import LineGate.Define
import LineGate.File.Path
import LineGate.File.System
import LineGate.Preprocessor
import LineGate.Number.Shortest
import LineGate.Value.Notation
import LineGate.Log.Template
import LineGate.Log.Handler
import LineGate.Command.Options
import LineGate.Command.Usage
import LineGate.Command.Arguments
import LineGate.Command.Host
import LineGate.Command.Run
import LineGate.Proofs.Computed
import LineGate.Proofs.Block.Nesting
import LineGate.Proofs.Block.Visit
import LineGate.Proofs.Block.Tree
import LineGate.Proofs.Block.Simulation
import LineGate.Proofs.Block.Extent
import LineGate.Proofs.Document.Rejection
import LineGate.Proofs.Document.Marked
import LineGate.Proofs.Expr.Lexeme
import LineGate.Proofs.Text.Class
import LineGate.Proofs.Expr.LexicalGrammar
import LineGate.Proofs.Expr.Lexing
import LineGate.Proofs.Expr.Descent
import LineGate.Proofs.Expr.Completeness
import LineGate.Proofs.Expr.Soundness
import LineGate.Proofs.Block.Events
import LineGate.Proofs.Expr.Names
import LineGate.Proofs.Document.Projection
import LineGate.Proofs.Expr.CallSites
import LineGate.Proofs.Expr.Calls
import LineGate.Proofs.Document.Relevance
import LineGate.Proofs.Block.Hidden
import LineGate.Proofs.Document.Sections
import LineGate.Proofs.Block.Shift
import LineGate.Proofs.Document.Concatenation
import LineGate.Proofs.Command.Arguments
import LineGate.Proofs.Command.Collision
import LineGate.Proofs.Document.Blanking
import LineGate.Proofs.Pattern.Repetition
import LineGate.Proofs.Directive.Standard
import LineGate.Proofs.Directive.Marker
import LineGate.Proofs.Document.LineEndings
import LineGate.Proofs.Text.Utf8
import LineGate.Proofs.Command.Batch
import LineGate.Proofs.Expr.Spaced
import LineGate.Proofs.Expr.Placeless
import LineGate.Proofs.Expr.Printer
import LineGate.Proofs.Text.Bytes
import LineGate.Proofs.Document.Encoded
import LineGate.Proofs.Document.LineCount
import LineGate.Proofs.Command.Course
import LineGate.Proofs.Command.WrittenBytes
import LineGate.Proofs.Command.Definitions
import LineGate.Proofs.Command.Misuse
import LineGate.Proofs.Command.Steady
import LineGate.Proofs.Command.Order
import LineGate.Proofs.Value.Equality
import LineGate.Proofs.Value.NumericText
import LineGate.Proofs.Expr.NumberText
import LineGate.Proofs.Command.DefinedNumber
import LineGate.Proofs.Block.ElseIf
import LineGate.Proofs.Block.Frames
import LineGate.Proofs.Command.Reference
import LineGate.Proofs.Block.Kept
import LineGate.Proofs.Document.Verbosity
