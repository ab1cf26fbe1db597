import RecordQuery.Access.Permission
import RecordQuery.Access.Projection
import RecordQuery.Aggregation.Accumulator
import RecordQuery.Aggregation.Aggregator
import RecordQuery.Aggregation.Dimension
import RecordQuery.Aggregation.Error
import RecordQuery.Aggregation.FieldPlan
import RecordQuery.Aggregation.Lookup
import RecordQuery.Aggregation.Reading
import RecordQuery.Aggregation.Request
import RecordQuery.Aggregation.Session
import RecordQuery.Bridge.Aggregator
import RecordQuery.Bridge.Backend
import RecordQuery.Bridge.Error
import RecordQuery.Bridge.Lifecycle
import RecordQuery.Bridge.Message
import RecordQuery.Calendar.Bucket
import RecordQuery.Calendar.Date
import RecordQuery.Calendar.Instant
import RecordQuery.Caller.Resolver
import RecordQuery.Caller.Token
import RecordQuery.Caller.User
import RecordQuery.Chart.Config
import RecordQuery.Chart.Drawing
import RecordQuery.Chart.Fields
import RecordQuery.Chart.Render
import RecordQuery.Chart.Run
import RecordQuery.Chart.Scale
import RecordQuery.Chart.Series
import RecordQuery.Command.Arguments
import RecordQuery.Command.Basic
import RecordQuery.Digest.Base64
import RecordQuery.Digest.Sha256
import RecordQuery.Filter.Compile
import RecordQuery.Filter.Compiled
import RecordQuery.Filter.Operator
import RecordQuery.Filter.Predicate
import RecordQuery.Filter.Syntax
import RecordQuery.Filter.Token
import RecordQuery.Find.Basic
import RecordQuery.Find.Reader
import RecordQuery.Find.Request
import RecordQuery.Find.Transform
import RecordQuery.Http.Credentials
import RecordQuery.Http.Form
import RecordQuery.Http.Message
import RecordQuery.Http.Params
import RecordQuery.Http.Service
import RecordQuery.Kpi.Config
import RecordQuery.Kpi.Figure
import RecordQuery.Kpi.Run
import RecordQuery.Main
import RecordQuery.Number.Basic
import RecordQuery.Number.Binary64
import RecordQuery.Number.Decimal
import RecordQuery.Number.Signed
import RecordQuery.Number.Word
import RecordQuery.Pattern.Accent
import RecordQuery.Pattern.Basic
import RecordQuery.Pattern.Bracket
import RecordQuery.Pattern.CharSet
import RecordQuery.Pattern.Reader
import RecordQuery.Pattern.Token
import RecordQuery.Pivot.Config
import RecordQuery.Pivot.Dimension
import RecordQuery.Pivot.Layout
import RecordQuery.Pivot.Run
import RecordQuery.Pivot.Table
import RecordQuery.Proofs.Access.Collisions
import RecordQuery.Proofs.Access.Confinement
import RecordQuery.Proofs.Access.Decision
import RecordQuery.Proofs.Access.Masking
import RecordQuery.Proofs.Access.OpenField
import RecordQuery.Proofs.Access.Permitted
import RecordQuery.Proofs.Access.Precedence
import RecordQuery.Proofs.Access.Selection
import RecordQuery.Proofs.Aggregation.Acceptance
import RecordQuery.Proofs.Aggregation.Accumulator
import RecordQuery.Proofs.Aggregation.FieldPlan
import RecordQuery.Proofs.Aggregation.LookupLabel
import RecordQuery.Proofs.Aggregation.Reading
import RecordQuery.Proofs.Aggregation.Rejection
import RecordQuery.Proofs.Aggregation.Request
import RecordQuery.Proofs.Aggregation.Session
import RecordQuery.Proofs.Bridge.Agreement
import RecordQuery.Proofs.Bridge.Framing
import RecordQuery.Proofs.Bridge.Lifecycle
import RecordQuery.Proofs.Bridge.Reply
import RecordQuery.Proofs.Calendar.Bucket
import RecordQuery.Proofs.Calendar.Date
import RecordQuery.Proofs.Calendar.Period
import RecordQuery.Proofs.Calendar.Written
import RecordQuery.Proofs.Chart.Config
import RecordQuery.Proofs.Chart.Groups
import RecordQuery.Proofs.Chart.Markup
import RecordQuery.Proofs.Chart.Run
import RecordQuery.Proofs.Filter.Agreement
import RecordQuery.Proofs.Filter.Algebra
import RecordQuery.Proofs.Filter.Compile
import RecordQuery.Proofs.Filter.Comparison
import RecordQuery.Proofs.Filter.DateLiterals
import RecordQuery.Proofs.Filter.DateTokens
import RecordQuery.Proofs.Filter.Evaluation
import RecordQuery.Proofs.Filter.Existential
import RecordQuery.Proofs.Filter.Faithful
import RecordQuery.Proofs.Filter.Ignores
import RecordQuery.Proofs.Filter.Negation
import RecordQuery.Proofs.Filter.Operand
import RecordQuery.Proofs.Filter.ReadBack
import RecordQuery.Proofs.Filter.TextSearch
import RecordQuery.Proofs.Find.Build
import RecordQuery.Proofs.Find.Confinement
import RecordQuery.Proofs.Find.Noninterference
import RecordQuery.Proofs.Find.Population
import RecordQuery.Proofs.Find.Reader
import RecordQuery.Proofs.Find.RowFilters
import RecordQuery.Proofs.Find.SortSpec
import RecordQuery.Proofs.Find.Whole
import RecordQuery.Proofs.Kpi.Figure
import RecordQuery.Proofs.Kpi.Run
import RecordQuery.Proofs.Number.Notation
import RecordQuery.Proofs.Outcome
import RecordQuery.Proofs.Pattern.Accent
import RecordQuery.Proofs.Pattern.Search
import RecordQuery.Proofs.Pivot.Cells
import RecordQuery.Proofs.Pivot.ColumnKey
import RecordQuery.Proofs.Pivot.Columns
import RecordQuery.Proofs.Pivot.HeaderTree
import RecordQuery.Proofs.Pivot.Headers
import RecordQuery.Proofs.Pivot.Layout
import RecordQuery.Proofs.Pivot.Measures
import RecordQuery.Proofs.Pivot.Periods
import RecordQuery.Proofs.Pivot.RollUp
import RecordQuery.Proofs.Pivot.Rows
import RecordQuery.Proofs.Pivot.Run
import RecordQuery.Proofs.Pivot.Table
import RecordQuery.Proofs.Schema.Resolution
import RecordQuery.Proofs.Store.Coverage
import RecordQuery.Proofs.Store.Cursor
import RecordQuery.Proofs.Store.EqualBut
import RecordQuery.Proofs.Store.Paging
import RecordQuery.Proofs.Store.PathSets
import RecordQuery.Proofs.Store.Projection
import RecordQuery.Proofs.Store.Reflects
import RecordQuery.Proofs.Svg.Escape
import RecordQuery.Proofs.Svg.Markup
import RecordQuery.Proofs.Svg.Reader
import RecordQuery.Proofs.Text.Case
import RecordQuery.Proofs.Text.Figures
import RecordQuery.Proofs.Text.Lines
import RecordQuery.Proofs.Text.Replace
import RecordQuery.Proofs.Value.Apart
import RecordQuery.Proofs.Value.Ascending
import RecordQuery.Proofs.Value.Cut
import RecordQuery.Proofs.Value.DateNormalization
import RecordQuery.Proofs.Value.Distinct
import RecordQuery.Proofs.Value.EqualBut
import RecordQuery.Proofs.Value.Fields
import RecordQuery.Proofs.Value.Legible
import RecordQuery.Proofs.Value.Line
import RecordQuery.Proofs.Value.Names
import RecordQuery.Proofs.Value.Order
import RecordQuery.Proofs.Value.Path
import RecordQuery.Proofs.Value.Reach
import RecordQuery.Proofs.Value.RoundTrip
import RecordQuery.Proofs.Value.Shape
import RecordQuery.Proofs.Value.Tokens
import RecordQuery.Proofs.Value.Width
import RecordQuery.Proofs.Value.Wrapped
import RecordQuery.QueryError
import RecordQuery.Schema.Field
import RecordQuery.Schema.Profile
import RecordQuery.Schema.Registry
import RecordQuery.Settings.Address
import RecordQuery.Settings.Basic
import RecordQuery.Store.Basic
import RecordQuery.Store.Cursor
import RecordQuery.Store.Error
import RecordQuery.Store.Projection
import RecordQuery.Store.Query
import RecordQuery.Svg.Basic
import RecordQuery.Text.Blank
import RecordQuery.Text.Case
import RecordQuery.Text.CaseTable
import RecordQuery.Text.Percent
import RecordQuery.Text.Replace
import RecordQuery.Text.Utf8
import RecordQuery.Text.Visible
import RecordQuery.Text.WordTable
import RecordQuery.Value.Basic
import RecordQuery.Value.Names
import RecordQuery.Value.NativeDate
import RecordQuery.Value.Order
import RecordQuery.Value.Path
import RecordQuery.Value.Pretty
import RecordQuery.Value.Printer
import RecordQuery.Value.Reader
import RecordQuery.Value.Shape
