import Datacube.Axis
import Datacube.AxisKind
import Datacube.BoundingBox
import Datacube.Catalog
import Datacube.CellExtent
import Datacube.Command.Arguments
import Datacube.Command.Configuration
import Datacube.Command.Failure
import Datacube.Command.Run
import Datacube.Command.Usage
import Datacube.Coverage
import Datacube.Crs
import Datacube.Environment.Assignment
import Datacube.Environment.Basic
import Datacube.Environment.Expansion
import Datacube.Error
import Datacube.Expr.Basic
import Datacube.Expr.Construct
import Datacube.Expr.Grammar
import Datacube.Expr.Induced
import Datacube.Expr.Operator
import Datacube.Expr.Pair
import Datacube.Expr.Parse
import Datacube.Expr.Reference
import Datacube.Expr.Scalar
import Datacube.Expr.SetMetadata
import Datacube.Expr.Subsetting
import Datacube.Expr.Switch
import Datacube.FileSystem
import Datacube.Json.Decode
import Datacube.Json.Layout
import Datacube.Json.Printer
import Datacube.Json.Reader
import Datacube.Json.Value
import Datacube.Main
import Datacube.Markup.Attribute
import Datacube.Markup.Document
import Datacube.Markup.Element
import Datacube.Markup.Entity
import Datacube.Markup.Fault
import Datacube.Markup.Token
import Datacube.Number.Decimal
import Datacube.Number.Integer
import Datacube.Number.Real
import Datacube.Number.Shortest
import Datacube.Proofs.Axis.CellIndex
import Datacube.Proofs.Axis.Definition
import Datacube.Proofs.Axis.Equality
import Datacube.Proofs.Axis.Precision
import Datacube.Proofs.Axis.Resolution
import Datacube.Proofs.Axis.Selection
import Datacube.Proofs.Catalog.Loaded
import Datacube.Proofs.CellExtent.History
import Datacube.Proofs.Command.Requests
import Datacube.Proofs.Coverage.Definition
import Datacube.Proofs.Crs.Compound
import Datacube.Proofs.Crs.Distinct
import Datacube.Proofs.Crs.Normal
import Datacube.Proofs.Environment.Expansion
import Datacube.Proofs.Expr.Branching
import Datacube.Proofs.Expr.Congruence
import Datacube.Proofs.Expr.Denotation
import Datacube.Proofs.Expr.Dispatch
import Datacube.Proofs.Expr.Domain
import Datacube.Proofs.Expr.Extension
import Datacube.Proofs.Expr.Form
import Datacube.Proofs.Expr.Height
import Datacube.Proofs.Expr.Labels
import Datacube.Proofs.Expr.Layer
import Datacube.Proofs.Expr.Level
import Datacube.Proofs.Expr.Literal
import Datacube.Proofs.Expr.Narrowing
import Datacube.Proofs.Expr.Nesting
import Datacube.Proofs.Expr.Operands
import Datacube.Proofs.Expr.Pairing
import Datacube.Proofs.Expr.Production
import Datacube.Proofs.Expr.Reading
import Datacube.Proofs.Expr.Regrouping
import Datacube.Proofs.Expr.Retexted
import Datacube.Proofs.Expr.Scaling
import Datacube.Proofs.Expr.Scoping
import Datacube.Proofs.Expr.Soundness
import Datacube.Proofs.Expr.Subsetting
import Datacube.Proofs.Expr.Tag
import Datacube.Proofs.Expr.Transparent
import Datacube.Proofs.Expr.Variation
import Datacube.Proofs.Expr.Vocabulary
import Datacube.Proofs.Markup.Entity
import Datacube.Proofs.Markup.Reader
import Datacube.Proofs.Markup.Shape
import Datacube.Proofs.Markup.Tag
import Datacube.Proofs.Markup.Written
import Datacube.Proofs.Number.Arithmetic
import Datacube.Proofs.Number.Decimal
import Datacube.Proofs.Number.Double
import Datacube.Proofs.Number.Error
import Datacube.Proofs.Number.Floor
import Datacube.Proofs.Number.Integer
import Datacube.Proofs.Number.Leading
import Datacube.Proofs.Number.Numeral
import Datacube.Proofs.Number.Order
import Datacube.Proofs.Number.Packing
import Datacube.Proofs.Number.Quotient
import Datacube.Proofs.Number.RoundTrip
import Datacube.Proofs.Number.Rounding
import Datacube.Proofs.Number.Shortest
import Datacube.Proofs.Number.Sign
import Datacube.Proofs.Number.Slack
import Datacube.Proofs.Number.Text
import Datacube.Proofs.Number.Whole
import Datacube.Proofs.Number.Word
import Datacube.Proofs.Number.Written
import Datacube.Proofs.Outcome
import Datacube.Proofs.Rasql.Literal
import Datacube.Proofs.Rasql.Shape
import Datacube.Proofs.Request.Closed
import Datacube.Proofs.Request.Enumeration
import Datacube.Proofs.Request.Literal
import Datacube.Proofs.Request.Readable
import Datacube.Proofs.Request.Rebinding
import Datacube.Proofs.Response.Agreement
import Datacube.Proofs.Response.Answer
import Datacube.Proofs.Response.Dimension
import Datacube.Proofs.Response.Envelope
import Datacube.Proofs.Response.Filling
import Datacube.Proofs.Response.Hull
import Datacube.Proofs.Response.Kinds
import Datacube.Proofs.Response.Markup
import Datacube.Proofs.Response.Narrowed
import Datacube.Proofs.Response.Query
import Datacube.Proofs.Response.Report
import Datacube.Proofs.Response.Settled
import Datacube.Proofs.Response.Slices
import Datacube.Proofs.Response.Texts
import Datacube.Proofs.Response.Values
import Datacube.Proofs.Response.WellFormed
import Datacube.Proofs.Schema.Alike
import Datacube.Proofs.Schema.FullTrim
import Datacube.Proofs.Schema.Selected
import Datacube.Proofs.Schema.Sound
import Datacube.Proofs.Store.Members
import Datacube.Proofs.Subset.Parsed
import Datacube.Proofs.Subset.Written
import Datacube.Proofs.Text.Characters
import Datacube.Proofs.Text.Pieces
import Datacube.Proofs.Text.Replace
import Datacube.Proofs.Text.Trim
import Datacube.Rasql
import Datacube.Request
import Datacube.Response.Capabilities
import Datacube.Response.Context
import Datacube.Response.Document
import Datacube.Response.Execution
import Datacube.Response.Handler
import Datacube.Response.Report
import Datacube.Response.Request
import Datacube.Response.Template
import Datacube.Response.TupleList
import Datacube.Sample.Coverages
import Datacube.Sample.RequestText
import Datacube.Schema
import Datacube.Settings
import Datacube.Store
import Datacube.Subset
import Datacube.Text.Alphanumeric
import Datacube.Text.Blank
import Datacube.Text.Case
import Datacube.Text.Cased
import Datacube.Text.Hidden
import Datacube.Text.Lower
import Datacube.Text.Pieces
import Datacube.Text.Quoted
import Datacube.Text.Ranges
import Datacube.Timestamp
import Datacube.Proofs.Crs.Normal
