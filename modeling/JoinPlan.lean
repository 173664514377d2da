import JoinPlan.Calculation
import JoinPlan.Column
import JoinPlan.Decimal.Double
import JoinPlan.Decimal.Reader
import JoinPlan.Decimal.Shortest
import JoinPlan.Dict
import JoinPlan.Enrichment.Basic
import JoinPlan.Enrichment.Builtin
import JoinPlan.Enrichment.Registry
import JoinPlan.Enrichment.Stage
import JoinPlan.Error
import JoinPlan.ErrorKind
import JoinPlan.Join.Build
import JoinPlan.Join.Condition
import JoinPlan.Join.Keys
import JoinPlan.Join.Source
import JoinPlan.Join.Window
import JoinPlan.Json.Basic
import JoinPlan.Json.Printer
import JoinPlan.Json.Reader
import JoinPlan.NameSupply
import JoinPlan.Plan.Listing
import JoinPlan.Plan.Stage
import JoinPlan.Predicate.Basic
import JoinPlan.Predicate.Evaluate
import JoinPlan.Predicate.Normal
import JoinPlan.Predicate.Printer
import JoinPlan.Row
import JoinPlan.Scope
import JoinPlan.Settings
import JoinPlan.Sql.Dialect
import JoinPlan.Sql.Generic.Expr
import JoinPlan.Sql.Generic.Lexer
import JoinPlan.Sql.Generic.Parser
import JoinPlan.Sql.Generic.Printer
import JoinPlan.Sql.Generic.Query
import JoinPlan.Sql.Generic.Token
import JoinPlan.Sql.Tree
import JoinPlan.Statement.Basic
import JoinPlan.Statement.Compile
import JoinPlan.Statement.PushDown
import JoinPlan.Statement.ReadError
import JoinPlan.Statement.Reader.Call
import JoinPlan.Statement.Reader.Condition
import JoinPlan.Statement.Reader.Query
import JoinPlan.Text.Blank
import JoinPlan.Text.Letter
import JoinPlan.Text.LowerCase
import JoinPlan.Text.Quoted
import JoinPlan.Text.Range
import JoinPlan.Proofs.Join.Resolve
import JoinPlan.Proofs.Predicate.Conjuncts
import JoinPlan.Proofs.Predicate.Rename
import JoinPlan.Proofs.Statement.PushDown
import JoinPlan.Proofs.Build.Steps
import JoinPlan.Proofs.Build.Streams
import JoinPlan.Proofs.Build.Window
import JoinPlan.Proofs.Statement.Compile
import JoinPlan.Proofs.Join.Sides
import JoinPlan.Proofs.PushDown
import JoinPlan.Proofs.Build.Runs
import JoinPlan.Proofs.Join.Names
import JoinPlan.Proofs.NameSupply
import JoinPlan.Proofs.Plan.Nested
import JoinPlan.Proofs.Predicate.Answers
import JoinPlan.Proofs.Build.Names
import JoinPlan.Proofs.Build.References
import JoinPlan.Proofs.Predicate.Nulls
import JoinPlan.Proofs.Statement.Having
import JoinPlan.Proofs.Build.Growth
import JoinPlan.Proofs.Build.Sides
import JoinPlan.Proofs.Registered
import JoinPlan.Proofs.DistinctNames
import JoinPlan.Proofs.Build.Failure
import JoinPlan.Proofs.Join.Regrouping
import JoinPlan.Proofs.Build.Branches
import JoinPlan.Proofs.Branch
import JoinPlan.Proofs.Statement.Clauses
import JoinPlan.Proofs.Predicate.Pairs
import JoinPlan.Proofs.Sql.Writing
import JoinPlan.Proofs.Sql.Generic.Lexer
import JoinPlan.Proofs.Sql.Generic.Spelling
import JoinPlan.Proofs.Sql.Generic.Grammar
import JoinPlan.Proofs.Predicate.RoundTrip
import JoinPlan.Proofs.Join.Orientation
import JoinPlan.Proofs.Join.Leaves
import JoinPlan.Proofs.Join.ColumnNames
import JoinPlan.Proofs.Build.Sources
import JoinPlan.Proofs.Build.Arrivals
import JoinPlan.Proofs.Statement.Takers
import JoinPlan.Proofs.Statement.ConditionColumns
import JoinPlan.Proofs.Build.Joining
import JoinPlan.Proofs.Statement.Meaning
import JoinPlan.Proofs.Statement.Stages
import JoinPlan.Proofs.Predicate.Order
import JoinPlan.Proofs.Predicate.Membership
import JoinPlan.Proofs.Decimal.WholeNumbers
import JoinPlan.Proofs.Predicate.WholeNumbers
import JoinPlan.Proofs.Predicate.Reading
import JoinPlan.Proofs.Statement.OwnNames
import JoinPlan.Proofs.Inputs
import JoinPlan.Proofs.Enrichment.Registry
import JoinPlan.Proofs.Predicate.Canonical
import JoinPlan.Proofs.Dict
import JoinPlan.Proofs.Enrichment.Passes
import JoinPlan.Proofs.Decimal.Digits
import JoinPlan.Proofs.Column
import JoinPlan.Proofs.Statement.Literals
import JoinPlan.Proofs.Enrichment.Paths
