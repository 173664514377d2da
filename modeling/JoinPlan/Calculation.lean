import JoinPlan.Column

/-!
# Calculated columns

What a select list computes: aggregates over the rows of a group, and calls of functions that write
one column of each row.
-/

namespace JoinPlan

inductive AggregateKind where
  | count | sum | min | max | avg
deriving DecidableEq, Repr, Inhabited

namespace AggregateKind

def all : List AggregateKind := [.count, .sum, .min, .max, .avg]

def text : AggregateKind → String
  | .count => "count"
  | .sum => "sum"
  | .min => "min"
  | .max => "max"
  | .avg => "avg"

/-- The name of an aggregate in messages. -/
def heading : AggregateKind → String
  | .count => "COUNT"
  | .sum => "SUM"
  | .min => "MIN"
  | .max => "MAX"
  | .avg => "AVG"

def ofText? (s : String) : Option AggregateKind :=
  all.find? (·.text == s)

end AggregateKind

structure Aggregate where
  kind : AggregateKind
  column : Column
deriving DecidableEq, Repr, Inhabited

def Aggregate.text (a : Aggregate) : String :=
  a.kind.text ++ "(" ++ a.column.text ++ ")"

inductive Calculation where
  | aggregate (a : Aggregate)
  | function (name : String) (args : List String)
deriving DecidableEq, Repr, Inhabited

/-- A function and the column it writes. -/
structure FunctionCall where
  function : String
  args : List String
  output : String
deriving DecidableEq, Repr, Inhabited

def FunctionCall.text (f : FunctionCall) : String :=
  f.output ++ " := " ++ f.function ++ "(" ++ ", ".intercalate f.args ++ ")"

/-- An item of a select list: a column, or what is calculated under the name of a column. -/
structure SelectItem where
  output : Column
  calculation : Option Calculation
deriving DecidableEq, Repr, Inhabited

namespace SelectItem

def aggregate? (item : SelectItem) : Option (Aggregate × String) :=
  match item.calculation with
  | some (.aggregate a) => some (a, item.output.text)
  | _ => none

def call? (item : SelectItem) : Option FunctionCall :=
  match item.calculation with
  | some (.function name args) => some ⟨name, args, item.output.text⟩
  | _ => none

end SelectItem

end JoinPlan
