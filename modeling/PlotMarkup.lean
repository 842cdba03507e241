import PlotMarkup.Number.Text
import PlotMarkup.Number.Reading
import PlotMarkup.Number.Rounding
import PlotMarkup.Text.Letter
import PlotMarkup.Text.LowerCase
import PlotMarkup.Text.Blank
import PlotMarkup.Json.Token
import PlotMarkup.Json.Reader
import PlotMarkup.Json.Writer
import PlotMarkup.Json.Record
import PlotMarkup.Expr.Lexer
import PlotMarkup.Expr.Eval
import PlotMarkup.Diagnostic.Json
import PlotMarkup.Analysis.Extrema
import PlotMarkup.Curve.Json
import PlotMarkup.Curve.Markup
import PlotMarkup.Catalog.Standard
import PlotMarkup.Store.Document
import PlotMarkup.CommandLine.Run
import PlotMarkup.Main
import PlotMarkup.Fragment.Json
import PlotMarkup.Analysis.Json
import PlotMarkup.Proofs.Outcome
import PlotMarkup.Proofs.Expr.Grammar
import PlotMarkup.Proofs.Expr.Parsing
import PlotMarkup.Proofs.Expr.Height
import PlotMarkup.Proofs.Catalog.Lookup
import PlotMarkup.Proofs.Expr.Evaluation
import PlotMarkup.Proofs.Setting.Check
import PlotMarkup.Proofs.Store.Entries
import PlotMarkup.Proofs.Store.History
import PlotMarkup.Proofs.Store.Assembly
import PlotMarkup.Proofs.Curve.Blocks
import PlotMarkup.Proofs.Analysis.Failure
import PlotMarkup.Proofs.Curve.Account
import PlotMarkup.Proofs.Catalog.Rendering
import PlotMarkup.Proofs.Store.Session
import PlotMarkup.Proofs.Store.Report
import PlotMarkup.Proofs.Number.Shortest
import PlotMarkup.Proofs.Json.Number
import PlotMarkup.Proofs.Json.Text
import PlotMarkup.Proofs.Json.Tokens
import PlotMarkup.Proofs.Json.Reading
import PlotMarkup.Proofs.Number.Range
import PlotMarkup.Proofs.Json.Finite
import PlotMarkup.Proofs.Json.Record
import PlotMarkup.Proofs.Setting.Reading
import PlotMarkup.Proofs.Config.RoundTrip
import PlotMarkup.Proofs.Config.Application
import PlotMarkup.Proofs.Config.Restore
import PlotMarkup.Proofs.Store.Visibility
import PlotMarkup.Proofs.Number.Characters
import PlotMarkup.Proofs.Expr.Lexemes
import PlotMarkup.Proofs.Expr.Phrases
import PlotMarkup.Proofs.Expr.Characters
import PlotMarkup.Proofs.Curve.Confinement
import PlotMarkup.Proofs.Expr.Spacing
import PlotMarkup.Proofs.Catalog.Registration
import PlotMarkup.Proofs.Store.Layout
import PlotMarkup.Proofs.CommandLine.Run
import PlotMarkup.Proofs.Number.Stored
import PlotMarkup.Proofs.Number.Nearest
import PlotMarkup.Proofs.Number.Quotient
import PlotMarkup.Proofs.Number.Short
import PlotMarkup.Proofs.Number.Reading
import PlotMarkup.Proofs.Number.ReadBack
import PlotMarkup.Proofs.Analysis.Tangent
import PlotMarkup.Proofs.Text.Lines
import PlotMarkup.Proofs.Text.Markers
import PlotMarkup.Proofs.Number.Value
import PlotMarkup.Proofs.Number.Rounded
import PlotMarkup.Proofs.Number.Arithmetic
import PlotMarkup.Proofs.Number.Limits
import PlotMarkup.Proofs.Number.Names
import PlotMarkup.Proofs.Analysis.Extrema
import PlotMarkup.Proofs.Analysis.Overflow
import PlotMarkup.Proofs.Analysis.Scan
import PlotMarkup.Proofs.Number.Order
import PlotMarkup.Proofs.Analysis.Samples
import PlotMarkup.Proofs.Analysis.Reach
import PlotMarkup.Proofs.Expr.Stuck
import PlotMarkup.Proofs.Expr.Viable
import PlotMarkup.Proofs.Curve.Isolation
import PlotMarkup.Proofs.Catalog.Suggestions
import PlotMarkup.Proofs.Number.Whole
import PlotMarkup.Proofs.Setting.Slider
import PlotMarkup.Proofs.Store.Sliders
import PlotMarkup.Proofs.Diagnostic.Reading
import PlotMarkup.Proofs.Store.Diagnostics
import PlotMarkup.Proofs.Text.Linewise
import PlotMarkup.Proofs.CommandLine.Groups
import PlotMarkup.Proofs.Expr.Literals
import PlotMarkup.Proofs.Expr.Segments
import PlotMarkup.Proofs.Analysis.Domain
import PlotMarkup.Proofs.Expr.Cursor
import PlotMarkup.Proofs.Expr.Nesting
import PlotMarkup.Proofs.Number.Readers
import PlotMarkup.Proofs.Analysis.Constant
