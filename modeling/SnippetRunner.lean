import SnippetRunner.Capture.Buffer
import SnippetRunner.Capture.Print
import SnippetRunner.Command.Arguments
import SnippetRunner.Command.Line
import SnippetRunner.Command.Session
import SnippetRunner.Config.Basic
import SnippetRunner.Config.Manager
import SnippetRunner.Config.Mapping
import SnippetRunner.Data
import SnippetRunner.Data.Blocks
import SnippetRunner.Data.Moment
import SnippetRunner.Dialect.Coconut
import SnippetRunner.Dialect.Handle
import SnippetRunner.Dialect.Tag
import SnippetRunner.Document.Json
import SnippetRunner.Document.Yaml.Content
import SnippetRunner.Document.Yaml.Lexer
import SnippetRunner.Document.Yaml.Node
import SnippetRunner.Document.Yaml.Scalar
import SnippetRunner.Document.Yaml.Scan
import SnippetRunner.Document.Yaml.Tag
import SnippetRunner.Engine.Basic
import SnippetRunner.Engine.Snippets
import SnippetRunner.Evaluation.Ancestry
import SnippetRunner.Evaluation.ArgumentRule
import SnippetRunner.Evaluation.Arithmetic
import SnippetRunner.Evaluation.BlockStep
import SnippetRunner.Evaluation.Builtin
import SnippetRunner.Evaluation.Calling
import SnippetRunner.Evaluation.Codec
import SnippetRunner.Evaluation.Construction
import SnippetRunner.Evaluation.Conversion
import SnippetRunner.Evaluation.Cost
import SnippetRunner.Evaluation.Equality
import SnippetRunner.Evaluation.Execution
import SnippetRunner.Evaluation.ExpressionStep
import SnippetRunner.Evaluation.Fields
import SnippetRunner.Evaluation.Format
import SnippetRunner.Evaluation.FunctionPart
import SnippetRunner.Evaluation.Generator
import SnippetRunner.Evaluation.Group
import SnippetRunner.Evaluation.Hash
import SnippetRunner.Evaluation.Instance
import SnippetRunner.Evaluation.Item
import SnippetRunner.Evaluation.Iteration
import SnippetRunner.Evaluation.KeySet
import SnippetRunner.Evaluation.Kind
import SnippetRunner.Evaluation.KnownType
import SnippetRunner.Evaluation.Layout
import SnippetRunner.Evaluation.Machine
import SnippetRunner.Evaluation.Making
import SnippetRunner.Evaluation.Mapping
import SnippetRunner.Evaluation.Matching
import SnippetRunner.Evaluation.MathFunction
import SnippetRunner.Evaluation.Member
import SnippetRunner.Evaluation.Method
import SnippetRunner.Evaluation.Method.Bytes
import SnippetRunner.Evaluation.Method.Keyed
import SnippetRunner.Evaluation.Method.Number
import SnippetRunner.Evaluation.Method.Row
import SnippetRunner.Evaluation.Method.Special
import SnippetRunner.Evaluation.Method.Text
import SnippetRunner.Evaluation.Module
import SnippetRunner.Evaluation.Names
import SnippetRunner.Evaluation.Native
import SnippetRunner.Evaluation.NumberFunction
import SnippetRunner.Evaluation.Object
import SnippetRunner.Evaluation.Operator
import SnippetRunner.Evaluation.Own
import SnippetRunner.Evaluation.PatternStep
import SnippetRunner.Evaluation.Perform
import SnippetRunner.Evaluation.Place
import SnippetRunner.Evaluation.Reach
import SnippetRunner.Evaluation.Sorting
import SnippetRunner.Evaluation.StatementStep
import SnippetRunner.Evaluation.Template
import SnippetRunner.Evaluation.Text
import SnippetRunner.Evaluation.Value
import SnippetRunner.Evaluation.ValueStep
import SnippetRunner.Fault.Kind
import SnippetRunner.Fault.Own
import SnippetRunner.Fault.Raised
import SnippetRunner.Fault.Report
import SnippetRunner.Fault.Source
import SnippetRunner.File.Folder
import SnippetRunner.Http.Manual
import SnippetRunner.Http.Message
import SnippetRunner.Http.Payload
import SnippetRunner.Http.Server
import SnippetRunner.Library
import SnippetRunner.Library.Amount
import SnippetRunner.Library.Calendar
import SnippetRunner.Library.Containers
import SnippetRunner.Library.Iteration
import SnippetRunner.Library.Writing
import SnippetRunner.Log
import SnippetRunner.Main
import SnippetRunner.Number.Complex
import SnippetRunner.Number.Decimal
import SnippetRunner.Number.Division
import SnippetRunner.Number.Dyadic
import SnippetRunner.Number.Hexadecimal
import SnippetRunner.Number.Reading
import SnippetRunner.Number.Shortest
import SnippetRunner.Number.Special
import SnippetRunner.Proofs.Capture.Captured
import SnippetRunner.Proofs.Capture.Printing
import SnippetRunner.Proofs.Command.Precedence
import SnippetRunner.Proofs.Config.Documents
import SnippetRunner.Proofs.Config.Exposure
import SnippetRunner.Proofs.Config.Limits
import SnippetRunner.Proofs.Config.Overrides
import SnippetRunner.Proofs.Dialect.Acquisition
import SnippetRunner.Proofs.Engine.Containment
import SnippetRunner.Proofs.Engine.Isolation
import SnippetRunner.Proofs.Engine.Readiness
import SnippetRunner.Proofs.Engine.Secrecy
import SnippetRunner.Proofs.Engine.Sequence
import SnippetRunner.Proofs.Engine.Serving
import SnippetRunner.Proofs.Engine.Snippets
import SnippetRunner.Proofs.Fault.ShownLines
import SnippetRunner.Proofs.Fault.Trimming
import SnippetRunner.Proofs.Http.BodyLength
import SnippetRunner.Proofs.Number.Amount
import SnippetRunner.Proofs.Number.Digits
import SnippetRunner.Proofs.Number.FloatOrder
import SnippetRunner.Proofs.Number.FloatSum
import SnippetRunner.Proofs.Run.Course
import SnippetRunner.Proofs.Run.Interleaving
import SnippetRunner.Proofs.Run.Outcomes
import SnippetRunner.Proofs.Run.Registration
import SnippetRunner.Proofs.Run.SideBySide
import SnippetRunner.Proofs.Sandbox.StartNames
import SnippetRunner.Proofs.Timer.Callbacks
import SnippetRunner.Proofs.Timer.Cancelling
import SnippetRunner.Proofs.Timer.Change
import SnippetRunner.Proofs.Timer.Consistency
import SnippetRunner.Proofs.Timer.Deadline
import SnippetRunner.Proofs.Timer.DueOrder
import SnippetRunner.Proofs.Timer.History
import SnippetRunner.Proofs.Timer.Lifecycle
import SnippetRunner.Proofs.Timer.Resume
import SnippetRunner.Proofs.Timer.Seconds
import SnippetRunner.Proofs.Timer.Steady
import SnippetRunner.Proofs.Timer.Timeline
import SnippetRunner.Run.Effect
import SnippetRunner.Run.Language
import SnippetRunner.Run.Outcome
import SnippetRunner.Run.Supervisor
import SnippetRunner.Run.Timeout
import SnippetRunner.Sandbox.Build
import SnippetRunner.Sandbox.Modules
import SnippetRunner.Sandbox.Names
import SnippetRunner.Search.Form
import SnippetRunner.Search.Reader
import SnippetRunner.Snippet.Constant
import SnippetRunner.Snippet.Declaration
import SnippetRunner.Snippet.Depth
import SnippetRunner.Snippet.Grammar.Conditional
import SnippetRunner.Snippet.Grammar.Expression
import SnippetRunner.Snippet.Grammar.Parameters
import SnippetRunner.Snippet.Grammar.Pattern
import SnippetRunner.Snippet.Grammar.Reader
import SnippetRunner.Snippet.Grammar.Statement
import SnippetRunner.Snippet.Grammar.Target
import SnippetRunner.Snippet.Literal
import SnippetRunner.Snippet.Placement
import SnippetRunner.Snippet.Program
import SnippetRunner.Snippet.Scope
import SnippetRunner.Snippet.Spelling
import SnippetRunner.Snippet.Token
import SnippetRunner.Snippet.Token.Lexer
import SnippetRunner.Snippet.Token.Number
import SnippetRunner.Snippet.Tree
import SnippetRunner.Sorting
import SnippetRunner.Terminal.Cell
import SnippetRunner.Terminal.Emoji.Names
import SnippetRunner.Terminal.Markup
import SnippetRunner.Terminal.Style
import SnippetRunner.Terminal.Table
import SnippetRunner.Text.Blank
import SnippetRunner.Text.CodeRanges
import SnippetRunner.Text.Encoding
import SnippetRunner.Text.Half
import SnippetRunner.Text.Identifier
import SnippetRunner.Text.LetterCase
import SnippetRunner.Text.LetterKind
import SnippetRunner.Text.Name
import SnippetRunner.Text.Name.Forms
import SnippetRunner.Text.Name.Letters
import SnippetRunner.Text.Name.Pictures
import SnippetRunner.Text.Name.Signs
import SnippetRunner.Text.Normal
import SnippetRunner.Text.Normal.Tables
import SnippetRunner.Text.Quoted
import SnippetRunner.Text.Utf8
import SnippetRunner.Timer.Agenda
import SnippetRunner.Timer.Delay
import SnippetRunner.Timer.Routine
