import TemplateExpr.Cache.Basic
import TemplateExpr.Cache.Key
import TemplateExpr.CharSet.Age
import TemplateExpr.CharSet.Basic
import TemplateExpr.CharSet.Break
import TemplateExpr.CharSet.Category
import TemplateExpr.CharSet.Folding
import TemplateExpr.CharSet.Name
import TemplateExpr.CharSet.Property
import TemplateExpr.CharSet.Script
import TemplateExpr.Chunks
import TemplateExpr.Command.Basic
import TemplateExpr.Completion.Basic
import TemplateExpr.Config.Basic
import TemplateExpr.Context.Basic
import TemplateExpr.Context.Fingerprint
import TemplateExpr.Context.Store
import TemplateExpr.Engine.Basic
import TemplateExpr.Engine.Evaluation
import TemplateExpr.Error.Basic
import TemplateExpr.Error.Report
import TemplateExpr.Eval.Basic
import TemplateExpr.Eval.Function
import TemplateExpr.Eval.Interpreter
import TemplateExpr.Eval.Operator
import TemplateExpr.Eval.Property
import TemplateExpr.Expr.Analysis
import TemplateExpr.Expr.Basic
import TemplateExpr.Expr.Json
import TemplateExpr.Expr.ParseError
import TemplateExpr.Expr.Parser
import TemplateExpr.Fields
import TemplateExpr.Json.Basic
import TemplateExpr.Json.Parser
import TemplateExpr.Json.Printer
import TemplateExpr.Lineage.Graph
import TemplateExpr.Lineage.PairedItem
import TemplateExpr.Lineage.RunData
import TemplateExpr.Location
import TemplateExpr.Main
import TemplateExpr.Method.Array
import TemplateExpr.Method.Basic
import TemplateExpr.Method.Date
import TemplateExpr.Method.Number
import TemplateExpr.Method.Object
import TemplateExpr.Method.Table
import TemplateExpr.Method.Text
import TemplateExpr.Number.Arithmetic
import TemplateExpr.Number.Dyadic
import TemplateExpr.Number.Shortest
import TemplateExpr.Number.Text
import TemplateExpr.Pattern.Basic
import TemplateExpr.Pattern.Footprint
import TemplateExpr.Pattern.Machine
import TemplateExpr.Pattern.Meaning
import TemplateExpr.Pattern.Parser
import TemplateExpr.Pattern.Tree
import TemplateExpr.Proofs.Cache.Comment
import TemplateExpr.Proofs.Cache.History
import TemplateExpr.Proofs.Cache.Mark
import TemplateExpr.Proofs.Cache.Statistics
import TemplateExpr.Proofs.Completion.Cursor
import TemplateExpr.Proofs.Context.Fingerprint
import TemplateExpr.Proofs.Context.Store
import TemplateExpr.Proofs.Engine.Blocked
import TemplateExpr.Proofs.Engine.Caching
import TemplateExpr.Proofs.Engine.Ceiling
import TemplateExpr.Proofs.Engine.Clock
import TemplateExpr.Proofs.Engine.Composition
import TemplateExpr.Proofs.Engine.Compute
import TemplateExpr.Proofs.Engine.Dependencies
import TemplateExpr.Proofs.Engine.Fingerprint
import TemplateExpr.Proofs.Engine.Limits
import TemplateExpr.Proofs.Engine.Secrecy
import TemplateExpr.Proofs.Engine.Validated
import TemplateExpr.Proofs.Eval.Agreement
import TemplateExpr.Proofs.Eval.Comparison
import TemplateExpr.Proofs.Eval.Conversion
import TemplateExpr.Proofs.Eval.Descent
import TemplateExpr.Proofs.Eval.Dialogue
import TemplateExpr.Proofs.Eval.Function
import TemplateExpr.Proofs.Eval.Interpreter
import TemplateExpr.Proofs.Eval.Nesting
import TemplateExpr.Proofs.Eval.Registers
import TemplateExpr.Proofs.Eval.Renaming
import TemplateExpr.Proofs.Eval.Shortcut
import TemplateExpr.Proofs.Expr.Analysis
import TemplateExpr.Proofs.Expr.Derivation
import TemplateExpr.Proofs.Expr.Grammar
import TemplateExpr.Proofs.Expr.Locality
import TemplateExpr.Proofs.Expr.Node
import TemplateExpr.Proofs.Expr.Parser
import TemplateExpr.Proofs.Expr.Place
import TemplateExpr.Proofs.Expr.Reading
import TemplateExpr.Proofs.Expr.Renaming
import TemplateExpr.Proofs.Expr.RoundTrip
import TemplateExpr.Proofs.Expr.Spans
import TemplateExpr.Proofs.Expr.Standing
import TemplateExpr.Proofs.Json.Printer
import TemplateExpr.Proofs.Json.RoundTrip
import TemplateExpr.Proofs.Lineage.Calls
import TemplateExpr.Proofs.Lineage.Graph
import TemplateExpr.Proofs.Lineage.RunData
import TemplateExpr.Proofs.Lineage.Trace
import TemplateExpr.Proofs.Method.Array
import TemplateExpr.Proofs.Method.Basic
import TemplateExpr.Proofs.Method.Distinct
import TemplateExpr.Proofs.Method.Occurrence
import TemplateExpr.Proofs.Method.Radix
import TemplateExpr.Proofs.Method.Scalar
import TemplateExpr.Proofs.Method.Sorting
import TemplateExpr.Proofs.Number.Decimal
import TemplateExpr.Proofs.Number.Dyadic
import TemplateExpr.Proofs.Number.Integer
import TemplateExpr.Proofs.Number.Literal
import TemplateExpr.Proofs.Number.Reading
import TemplateExpr.Proofs.Number.Rounding
import TemplateExpr.Proofs.Number.Shortest
import TemplateExpr.Proofs.Partial
import TemplateExpr.Proofs.Query.Basic
import TemplateExpr.Proofs.Query.Bracket
import TemplateExpr.Proofs.Template.Closing
import TemplateExpr.Proofs.Template.Compiled
import TemplateExpr.Proofs.Template.Segments
import TemplateExpr.Proofs.Text.Digit
import TemplateExpr.Proofs.Time.Calendar
import TemplateExpr.Proofs.Time.Month
import TemplateExpr.Proofs.Time.Unit
import TemplateExpr.Proofs.Token.Escape
import TemplateExpr.Proofs.Token.Extent
import TemplateExpr.Proofs.Token.Lexer
import TemplateExpr.Proofs.Token.Locality
import TemplateExpr.Proofs.Token.Slice
import TemplateExpr.Proofs.Token.Spacing
import TemplateExpr.Proofs.Validation.Basic
import TemplateExpr.Proofs.Validation.Ranges
import TemplateExpr.Proofs.Value.Equality
import TemplateExpr.Proofs.Value.Guard
import TemplateExpr.Proofs.Value.Marks
import TemplateExpr.Proofs.Value.RoundTrip
import TemplateExpr.Query.Basic
import TemplateExpr.Security.Policy
import TemplateExpr.Span
import TemplateExpr.Template.Basic
import TemplateExpr.Template.Compiled
import TemplateExpr.Text.Address
import TemplateExpr.Text.Case
import TemplateExpr.Text.Class
import TemplateExpr.Text.CodeTable
import TemplateExpr.Text.Digit
import TemplateExpr.Text.Encoding
import TemplateExpr.Text.Normal
import TemplateExpr.Text.Search
import TemplateExpr.Text.Taken
import TemplateExpr.Text.Utf8
import TemplateExpr.Time.DateTime
import TemplateExpr.Time.Format
import TemplateExpr.Time.Parser
import TemplateExpr.Token.Basic
import TemplateExpr.Token.Lexer
import TemplateExpr.Url.Basic
import TemplateExpr.Url.Host
import TemplateExpr.Url.Label
import TemplateExpr.Url.NameMapping
import TemplateExpr.Url.Punycode
import TemplateExpr.Validation.Basic
import TemplateExpr.Validation.Printer
import TemplateExpr.Validation.Problem
import TemplateExpr.Value.Basic
import TemplateExpr.Value.DateTime
import TemplateExpr.Value.Host
import TemplateExpr.Value.Json
