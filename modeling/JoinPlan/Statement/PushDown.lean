import JoinPlan.Join.Source
import JoinPlan.Statement.Basic

/-!
# Filters before a join

A part of a filter that reads columns of one side only can run before the join, on the rows of that
side. On the right it may do so only where rows without a match are dropped: otherwise a row whose
match is filtered out would stay as one without a match.
-/

namespace JoinPlan

/-- Whether a scope knows all columns of a predicate. -/
def Scope.covers (s : Scope) (p : Predicate) : Bool :=
  p.columns.all fun c => (s.resolve c.text).isSome

/-- A predicate with the names that its columns have in a scope. -/
def Scope.localize (s : Scope) (p : Predicate) : Predicate :=
  p.mapColumns fun c => s.resolve c.text

namespace Join

/-- The side whose columns a predicate reads. One that reads no column belongs to neither. -/
def sideOf (j : Join) (p : Predicate) : Option Side :=
  if p.columns.isEmpty then none
  else if j.left.scope.covers p then some .left
  else if j.right.scope.covers p then some .right
  else none

/-- Whether rows of a side may be filtered before they reach the join. -/
def mayFilter (j : Join) : Side → Bool
  | .left => true
  | .right => j.kind == .inner

/-- The join with one part of a filter on the side it belongs to, if that side takes it. -/
def pushPart (j : Join) (p : Predicate) : Option Join := do
  let side ← j.sideOf p
  if j.mayFilter side then j.pushFilter side ((j.side side).scope.localize p) else none

/-- The join with those parts of a filter that its sides take, and the other parts. -/
def pushParts (j : Join) : List Predicate → Join × List Predicate
  | [] => (j, [])
  | p :: ps =>
    match j.pushPart p with
    | some j => j.pushParts ps
    | none =>
      let (j, rest) := j.pushParts ps
      (j, p :: rest)

/-- The join with as much of a filter as its sides take, and what is left of the filter. -/
def pushDown (j : Join) (p : Predicate) : Join × List Predicate :=
  j.pushParts p.conjuncts

end Join

end JoinPlan
