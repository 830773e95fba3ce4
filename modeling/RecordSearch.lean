import RecordSearch.Builder
import RecordSearch.Calendar.Date
import RecordSearch.Calendar.Instant
import RecordSearch.Calendar.Reader
import RecordSearch.Code
import RecordSearch.Code.Lexer
import RecordSearch.Config
import RecordSearch.Criteria
import RecordSearch.Declaration
import RecordSearch.Declaration.Accessors
import RecordSearch.Declaration.Generics
import RecordSearch.Declaration.Options
import RecordSearch.Declaration.Shape
import RecordSearch.Diagnostic
import RecordSearch.Dialect
import RecordSearch.Error
import RecordSearch.Expr
import RecordSearch.Expr.Eval
import RecordSearch.Expr.Name
import RecordSearch.Expr.Parser
import RecordSearch.Expr.Token
import RecordSearch.Json
import RecordSearch.Json.Criteria
import RecordSearch.Json.Printer
import RecordSearch.Json.Reader
import RecordSearch.Json.Search
import RecordSearch.Json.Value
import RecordSearch.Number.Binary
import RecordSearch.Number.Digits
import RecordSearch.Number.Power
import RecordSearch.Number.Scaled
import RecordSearch.Number.Shortest
import RecordSearch.Number.Word
import RecordSearch.Number.Written
import RecordSearch.Operator
import RecordSearch.Predicate
import RecordSearch.Proofs.Builder.FilterSteps
import RecordSearch.Proofs.Builder.SortSteps
import RecordSearch.Proofs.Calendar.ReadBack
import RecordSearch.Proofs.Criteria.Compiled
import RecordSearch.Proofs.Criteria.Connectives
import RecordSearch.Proofs.Criteria.Evaluated
import RecordSearch.Proofs.Criteria.Failing
import RecordSearch.Proofs.Criteria.Faults
import RecordSearch.Proofs.Criteria.Flattened
import RecordSearch.Proofs.Criteria.Identifiers
import RecordSearch.Proofs.Criteria.Leaves
import RecordSearch.Proofs.Criteria.Membership
import RecordSearch.Proofs.Criteria.Negated
import RecordSearch.Proofs.Criteria.Ordered
import RecordSearch.Proofs.Criteria.Runs
import RecordSearch.Proofs.Criteria.Tree
import RecordSearch.Proofs.Criteria.Typed
import RecordSearch.Proofs.Declaration.Entries
import RecordSearch.Proofs.Declaration.Literal
import RecordSearch.Proofs.Declaration.Reported
import RecordSearch.Proofs.Declaration.RoundTrip
import RecordSearch.Proofs.Expr.Appended
import RecordSearch.Proofs.Expr.Grammar
import RecordSearch.Proofs.Expr.Lexing
import RecordSearch.Proofs.Expr.Name
import RecordSearch.Proofs.Expr.NamesRead
import RecordSearch.Proofs.Expr.Places
import RecordSearch.Proofs.Expr.Rendering
import RecordSearch.Proofs.Expr.Spelling
import RecordSearch.Proofs.Expr.Stops
import RecordSearch.Proofs.Expr.Written
import RecordSearch.Proofs.Json.RoundTrip
import RecordSearch.Proofs.Json.Text
import RecordSearch.Proofs.Json.Tokens
import RecordSearch.Proofs.Json.Values
import RecordSearch.Proofs.Number.Digits
import RecordSearch.Proofs.Number.Nearest
import RecordSearch.Proofs.Outcome
import RecordSearch.Proofs.Rows.NumberOrder
import RecordSearch.Proofs.Rows.Ordered
import RecordSearch.Proofs.Rows.Refined
import RecordSearch.Proofs.Rows.Reordered
import RecordSearch.Proofs.Rows.Repeated
import RecordSearch.Proofs.Rows.SortKeys
import RecordSearch.Proofs.Schema.Shown
import RecordSearch.Proofs.Search.Calls
import RecordSearch.Proofs.Search.Configured
import RecordSearch.Proofs.Search.Errors
import RecordSearch.Proofs.Search.Extended
import RecordSearch.Proofs.Search.Filtered
import RecordSearch.Proofs.Search.Merged
import RecordSearch.Proofs.Search.Paging
import RecordSearch.Proofs.Search.Reference
import RecordSearch.Proofs.Search.Stages
import RecordSearch.Proofs.Sorting.Merged
import RecordSearch.Proofs.Sorting.Parted
import RecordSearch.Proofs.Sorting.Runs
import RecordSearch.Proofs.Sorting.Short
import RecordSearch.Proofs.Sorting.StableSort
import RecordSearch.Proofs.Value.Coherent
import RecordSearch.Proofs.Value.Order
import RecordSearch.Record
import RecordSearch.Rows
import RecordSearch.Schema
import RecordSearch.Search
import RecordSearch.Sorting
import RecordSearch.Text.Letter
import RecordSearch.Text.LetterCase
import RecordSearch.Text.Quoted
import RecordSearch.Text.Ranges
import RecordSearch.Text.Unprintable
import RecordSearch.Toml
import RecordSearch.Toml.Reader
import RecordSearch.Toml.Scalar
import RecordSearch.Uuid
import RecordSearch.Value
