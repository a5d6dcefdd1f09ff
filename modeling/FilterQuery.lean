import FilterQuery.Binary64.Basic
import FilterQuery.Binary64.Shortest
import FilterQuery.Calendar.Date
import FilterQuery.Calendar.Shift
import FilterQuery.Calendar.Text
import FilterQuery.CommandLine.Arguments
import FilterQuery.CommandLine.Failure
import FilterQuery.CommandLine.Host
import FilterQuery.CommandLine.Invocation
import FilterQuery.CommandLine.Listing
import FilterQuery.CommandLine.Run
import FilterQuery.CommandLine.Usage
import FilterQuery.Comparison
import FilterQuery.Condition.Backend
import FilterQuery.Condition.Building
import FilterQuery.Decimal.Basic
import FilterQuery.Decimal.Text
import FilterQuery.Dictionary
import FilterQuery.Engine
import FilterQuery.Files.Path
import FilterQuery.Files.Tree
import FilterQuery.Json.Basic
import FilterQuery.Json.Nesting
import FilterQuery.Json.Pretty
import FilterQuery.Json.Printer
import FilterQuery.Json.Reader
import FilterQuery.Operator.Basic
import FilterQuery.Operator.Builtin
import FilterQuery.Operator.Catalog
import FilterQuery.Operator.Registration
import FilterQuery.Operator.Resolution
import FilterQuery.Operator.Rule
import FilterQuery.Placeholder.Context
import FilterQuery.Placeholder.Registry
import FilterQuery.Placeholder.Substitution
import FilterQuery.Proofs.Binary64.Rounding
import FilterQuery.Proofs.Binary64.Shortest
import FilterQuery.Proofs.Calendar.Text
import FilterQuery.Proofs.Condition.Compiled
import FilterQuery.Proofs.Condition.Evaluation
import FilterQuery.Proofs.Condition.Faults
import FilterQuery.Proofs.Condition.Operand
import FilterQuery.Proofs.Condition.Record
import FilterQuery.Proofs.Condition.Steps
import FilterQuery.Proofs.Condition.Tree
import FilterQuery.Proofs.Condition.Truth
import FilterQuery.Proofs.Dictionary
import FilterQuery.Proofs.Json.Depth
import FilterQuery.Proofs.Json.Numeral
import FilterQuery.Proofs.Json.Places
import FilterQuery.Proofs.Json.ReadBack
import FilterQuery.Proofs.Json.WellFormed
import FilterQuery.Proofs.Operator.History
import FilterQuery.Proofs.Operator.Registration
import FilterQuery.Proofs.Operator.Resolution
import FilterQuery.Proofs.Operator.Typing
import FilterQuery.Proofs.Outcome
import FilterQuery.Proofs.Placeholder.Substitution
import FilterQuery.Proofs.Query.Depth
import FilterQuery.Proofs.Query.Encoding
import FilterQuery.Proofs.Query.Grammar
import FilterQuery.Proofs.Query.Reading
import FilterQuery.Proofs.Query.Structure
import FilterQuery.Proofs.Query.Text
import FilterQuery.Proofs.Query.WellFormed
import FilterQuery.Proofs.Scalar.Coercion
import FilterQuery.Proofs.Sql.Contents
import FilterQuery.Proofs.Sql.DateLiteral
import FilterQuery.Proofs.Sql.Depth
import FilterQuery.Proofs.Sql.Flattening
import FilterQuery.Proofs.Sql.JoinTokens
import FilterQuery.Proofs.Sql.Meaning
import FilterQuery.Proofs.Sql.Parentheses
import FilterQuery.Proofs.Sql.ReadBack
import FilterQuery.Proofs.Sql.Template
import FilterQuery.Proofs.Sql.Token
import FilterQuery.Proofs.Sql.Typing
import FilterQuery.Proofs.Sql.Walks
import FilterQuery.Proofs.Text.Digits
import FilterQuery.Query.Basic
import FilterQuery.Query.Parsing
import FilterQuery.Query.Reading
import FilterQuery.Query.Validation
import FilterQuery.QueryError
import FilterQuery.Scalar.Basic
import FilterQuery.Scalar.Coercion
import FilterQuery.Settings.Basic
import FilterQuery.Settings.Text
import FilterQuery.Sql.Condition
import FilterQuery.Sql.Dialect
import FilterQuery.Sql.Outline
import FilterQuery.Sql.Rendering
import FilterQuery.Summary
import FilterQuery.Text.Blank
import FilterQuery.Text.Digits
import FilterQuery.Text.Quoted
import FilterQuery.Text.Unprintable
import FilterQuery.Toml.Basic
import FilterQuery.Toml.Line
import FilterQuery.Toml.Moment
import FilterQuery.Toml.Printer
import FilterQuery.Toml.Quoted
import FilterQuery.Toml.Reader
import FilterQuery.Toml.Word
import FilterQuery.Word
import FilterQuery.Main
import FilterQuery.Proofs.CommandLine.Queries
import FilterQuery.Proofs.CommandLine.Defaults
import FilterQuery.Proofs.CommandLine.Frame
import FilterQuery.Proofs.Decimal.Rounding
import FilterQuery.Proofs.Decimal.Numeral
import FilterQuery.Proofs.Decimal.Reading
import FilterQuery.Proofs.Calendar.Gregorian
import FilterQuery.Proofs.Calendar.Succession
import FilterQuery.Proofs.Calendar.Shift
import FilterQuery.Proofs.Decimal.Whole
import FilterQuery.Proofs.Operator.Relative
import FilterQuery.Proofs.Calendar.Written
import FilterQuery.Proofs.Decimal.Printing
import FilterQuery.Proofs.Scalar.Dates
import FilterQuery.Proofs.Scalar.Numbers
import FilterQuery.Proofs.Scalar.Quoting
import FilterQuery.Proofs.Scalar.RoundTrip
import FilterQuery.Proofs.Calendar.Movement
import FilterQuery.Proofs.Operator.Mirror
import FilterQuery.Proofs.Sql.Writing
import FilterQuery.Proofs.Decimal.Normal
import FilterQuery.Proofs.Sql.Literals
import FilterQuery.Proofs.Query.Filling
import FilterQuery.Proofs.Condition.Today
import FilterQuery.Proofs.Query.Offences
import FilterQuery.Proofs.Query.Verbatim
import FilterQuery.Proofs.Condition.NullTests
import FilterQuery.Proofs.Operator.Rejection
import FilterQuery.Proofs.Condition.Rejection
import FilterQuery.Proofs.Operator.Component
import FilterQuery.Proofs.Walk.Basic
import FilterQuery.Proofs.Walk.Recursion
import FilterQuery.Proofs.Sql.Outline
import FilterQuery.Proofs.CommandLine.Outline
