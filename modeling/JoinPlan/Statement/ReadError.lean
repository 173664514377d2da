import JoinPlan.ErrorKind
import JoinPlan.Statement.Basic

/-!
# Errors of reading

Why a text is no statement and no condition. SQL that is well formed can still be refused, because
plans are made only for a part of it.
-/

namespace JoinPlan

/-- SQL that no plan is made for. Where a text is given it is that of the part in question. -/
inductive Unsupported where
  | severalStatements
  | notSelect
  /-- A query that is put together from others. -/
  | setOperation
  | severalSources
  /-- Something other than a table stands behind FROM or JOIN. -/
  | notTable
  | joinSide (name : String)
  | joinConstraint
  | unnamedItem (text : String)
  | namedColumn (text : String)
  | allColumns
  | aggregateOfAll (name : String)
  | aggregateArguments (name : String)
  | queryArguments
  | argumentForm
  | groupByAll
  | notColumn (text : String)
  | condition (text : String)
  | comparison (symbol : String)
  | operand (text : String)
  | literal (text : String)
  | minus (text : String)
deriving DecidableEq, Repr

def Unsupported.text : Unsupported → String
  | .severalStatements => "only single-statement SQL is supported"
  | .notSelect => "only SELECT queries are supported"
  | .setOperation => "only simple SELECT is supported (no UNION/EXCEPT/INTERSECT)"
  | .severalSources => "only one FROM source is supported"
  | .notTable => "only simple table names in FROM are supported"
  | .joinSide name => "only INNER and LEFT JOIN are supported, got " ++ name
  | .joinConstraint => "JOIN requires ON ... (USING and NATURAL are not supported)"
  | .unnamedItem text => "unsupported select expression without alias: " ++ text
  | .namedColumn text => "only function calls can be aliased: " ++ text
  | .allColumns => "SELECT * is not supported (use explicit columns)"
  | .aggregateOfAll name => name ++ "(*) is not supported (use " ++ name ++ "(col))"
  | .aggregateArguments name => name ++ "() requires one column argument"
  | .queryArguments => "subquery function arguments are not supported"
  | .argumentForm => "unsupported function argument form"
  | .groupByAll => "GROUP BY ALL is not supported"
  | .notColumn text => "expected a column reference, got " ++ text
  | .condition text => "unsupported SQL expression in condition: " ++ text
  | .comparison symbol => "unsupported comparison operator: " ++ symbol
  | .operand text => "unsupported SQL operand: " ++ text
  | .literal text => "unsupported SQL literal: " ++ text
  | .minus text => "unary minus on a non-numeric literal: " ++ text

inductive ReadError where
  /-- A text is not SQL, for the reason that the parser gives. -/
  | malformed (reason : String)
  | malformedCondition (text reason : String)
  /-- A whole number is too large, or a number has an exponent and no point. -/
  | badNumber (text : String)
  | joinCount (found : Nat) (content : String)
  /-- A condition calls a function that the select list does not. -/
  | notComputed (text : String)
  | invalid (e : StatementError)
  | unsupported (what : Unsupported)
deriving DecidableEq, Repr

namespace ReadError

def kind : ReadError → ErrorKind
  | .malformed _ | .malformedCondition .. | .badNumber _ => .planning
  | .joinCount .. | .notComputed _ | .invalid _ => .invalidStatement
  | .unsupported _ => .unsupported

def text : ReadError → String
  | .malformed reason => reason
  | .malformedCondition text reason => "cannot parse condition '" ++ text ++ "': " ++ reason
  | .badNumber text => "bad number: " ++ text
  | .joinCount found content =>
    "expected exactly one JOIN, found " ++ toString found ++ ": " ++ content
  | .notComputed text => text ++ " in a condition must also be computed in the select list"
  | .invalid e => e.text
  | .unsupported what => what.text

end ReadError

end JoinPlan
