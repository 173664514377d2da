import JoinPlan.Calculation
import JoinPlan.Join.Source

/-!
# Statements

A statement joins two tables and selects columns of the join. Over that it may filter rows, group
them and keep only some of the groups.
-/

namespace JoinPlan

inductive StatementError where
  /-- HAVING reads a column that no group has. -/
  | notProduced (column : Column) (content : String)
  /-- A group key is a column of neither side. -/
  | unknownGroupKey (column : Column) (content : String)
deriving DecidableEq, Repr

def StatementError.text : StatementError → String
  | .notProduced column content =>
    "having field " ++ column.text ++ " is not produced by group by or aggregation: " ++ content
  | .unknownGroupKey column content =>
    "group by field " ++ column.text ++ " is unknown to both sides: " ++ content

/-! ## Joins -/

/-- A table of a statement and its alias, if it has one. -/
structure TableRef where
  name : String
  asName : Option String
deriving DecidableEq, Repr, Inhabited

structure JoinQuery where
  /-- The text of the statement, for messages. -/
  content : String
  source : TableRef
  joined : TableRef
  kind : JoinKind
  on : Option JoinCondition
  items : List SelectItem
deriving Inhabited

namespace JoinQuery

def aggregates (q : JoinQuery) : List (Aggregate × String) :=
  q.items.filterMap SelectItem.aggregate?

def calls (q : JoinQuery) : List FunctionCall :=
  q.items.filterMap SelectItem.call?

end JoinQuery

/-! ## Filters and groups -/

structure GroupedQuery where
  join : JoinQuery
  /-- A filter whose parts may run before the join. -/
  before : Option Predicate
  /-- A filter that runs behind the join. -/
  after : Option Predicate
  keys : List Column
deriving Inhabited

namespace GroupedQuery

/-- The columns of a group: its keys and what is calculated for it. -/
def outputs (q : GroupedQuery) : List Column :=
  q.keys ++ (q.join.items.filter (·.calculation.isSome)).map (·.output)

/-- Whether a group has a column that agrees with the given one. -/
def produces (q : GroupedQuery) (c : Column) : Bool :=
  q.outputs.any (·.agrees c)

end GroupedQuery

/-- Groups of which those stay that a predicate accepts. -/
structure HavingQuery where
  grouped : GroupedQuery
  having : Predicate
  produced : ∀ c ∈ having.columns, grouped.produces c = true

/-- The query with a predicate on its groups, unless that reads a column that no group has. -/
def GroupedQuery.withHaving (q : GroupedQuery) (having : Predicate) :
    Except StatementError HavingQuery :=
  match h : having.columns.find? (!q.produces ·) with
  | some c => .error (.notProduced c q.join.content)
  | none => .ok ⟨q, having, fun c hc => by simpa using List.find?_eq_none.1 h c hc⟩

/-! ## Statements -/

inductive Statement where
  | join (q : JoinQuery)
  | grouped (q : GroupedQuery)
  | having (q : HavingQuery)

namespace Statement

def query : Statement → JoinQuery
  | .join q => q
  | .grouped q => q.join
  | .having q => q.grouped.join

end Statement

end JoinPlan
