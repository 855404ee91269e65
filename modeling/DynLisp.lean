import DynLisp.Cause
import DynLisp.CommandLine
import DynLisp.Cursor
import DynLisp.Environment
import DynLisp.Evaluation
import DynLisp.Expr
import DynLisp.Expr.Printer
import DynLisp.Failure
import DynLisp.Main
import DynLisp.Message
import DynLisp.Notice
import DynLisp.ParseError
import DynLisp.Parser
import DynLisp.Platform
import DynLisp.Position
import DynLisp.Program
import DynLisp.Proofs.Lockstep
import DynLisp.Proofs.Restoration
import DynLisp.Proofs.Scopes
import DynLisp.Reader
import DynLisp.Reporter
import DynLisp.Run
import DynLisp.Session
import DynLisp.Shell
import DynLisp.Template
import DynLisp.Template.Catalogue
import DynLisp.Template.Catalogue.Kinds
import DynLisp.Template.Catalogue.Numbers
import DynLisp.Template.Catalogue.Operations
import DynLisp.Template.Catalogue.Rows
import DynLisp.Template.Catalogue.Texts
import DynLisp.Template.Feature
import DynLisp.Template.Kind
import DynLisp.Template.Subject
import DynLisp.Text.Blank
import DynLisp.Text.Copies
import DynLisp.Text.Cut
import DynLisp.Text.Decimal
import DynLisp.Text.Digit
import DynLisp.Text.Hex
import DynLisp.Text.Layout
import DynLisp.Text.Layout.Number
import DynLisp.Text.Letter
import DynLisp.Text.Lines
import DynLisp.Text.Numeral
import DynLisp.Text.Printable
import DynLisp.Text.Quoted
import DynLisp.Text.Ranges
import DynLisp.Text.Style
import DynLisp.Text.Utf8
import DynLisp.Token
import DynLisp.Value
import DynLisp.Wording
import DynLisp.Proofs.DynamicScoping
import DynLisp.Proofs.Characters
import DynLisp.Proofs.Lexing
import DynLisp.Proofs.Descent
import DynLisp.Proofs.Forms
import DynLisp.Proofs.Reading
import DynLisp.Proofs.Grammar
import DynLisp.Proofs.WellFormed
import DynLisp.Proofs.RoundTrip
import DynLisp.Proofs.Placement
import DynLisp.Proofs.Relocation
import DynLisp.Proofs.Composition
import DynLisp.Proofs.Code
import DynLisp.Proofs.Brackets
import DynLisp.Proofs.LineFeeding
import DynLisp.Proofs.Discipline
import DynLisp.Proofs.KeptBindings
import DynLisp.Proofs.Unfinished
import DynLisp.Proofs.Division
import DynLisp.Proofs.Tasks
import DynLisp.Proofs.Sources
import DynLisp.Proofs.Soundness
import DynLisp.Proofs.Lengths
import DynLisp.Proofs.Containment
import DynLisp.Proofs.Lines
import DynLisp.Proofs.Quotation
import DynLisp.Proofs.Provenance
import DynLisp.Proofs.Spacing
import DynLisp.Proofs.Correspondence
import DynLisp.Proofs.Confinement
import DynLisp.Proofs.Diagnostics
import DynLisp.Proofs.Reports
import DynLisp.Proofs.ShellSteps
import DynLisp.Proofs.BetweenLines
import DynLisp.Proofs.Arithmetic
import DynLisp.Proofs.Calls
import DynLisp.Proofs.Truncation
import DynLisp.Proofs.Resumption
import DynLisp.Proofs.Nodes
import DynLisp.Proofs.Highlights
import DynLisp.Proofs.Budgets
import DynLisp.Proofs.Delimited
import DynLisp.Proofs.Outlines
import DynLisp.Proofs.Templates
