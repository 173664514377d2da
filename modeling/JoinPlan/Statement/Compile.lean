import JoinPlan.Error
import JoinPlan.Statement.PushDown

/-!
# Compiling statements

The plan of a statement: the stages of its join and behind them, in this order, a filter, groups or
functions, and a filter on the groups. A statement that cannot be compiled has no plan.
-/

namespace JoinPlan

structure Plan where
  root : Fragment
  strategy : JoinStrategy
deriving Inhabited

/-! ## The join of a statement -/

def TableRef.source (t : TableRef) (catalog : Catalog) : Except BuildError Source :=
  match Source.ofCatalog? catalog t.name t.asName with
  | some s => .ok s
  | none => .error (.unknownTable t.name)

def JoinQuery.join (q : JoinQuery) (catalog : Catalog) : Except BuildError Join := do
  let left ← q.source.source catalog
  let right ← q.joined.source catalog
  return ⟨left, right, q.kind, q.on⟩

/-- The streams that the plan of a statement reads. -/
def Statement.streams (s : Statement) (catalog : Catalog) : Except BuildError NameSet := do
  return (← s.query.join catalog).toSource.streams

/-! ## Filters -/

/-- The first group key that neither side of the join knows. -/
def GroupedQuery.unknownKey? (q : GroupedQuery) (j : Join) : Option Column :=
  q.keys.find? fun key => (j.columnText key.text).isNone

/-- The parts of the filter before the join that its sides take, put on the sides, and the other
parts. -/
def GroupedQuery.pushBefore (q : GroupedQuery) (settings : Settings) (j : Join) :
    Join × List Predicate :=
  match q.before with
  | none => (j, [])
  | some p => if settings.pushDown then j.pushDown p else (j, [p])

/-- The join with the filters on its sides, and the filter behind it in the names of the join. -/
def GroupedQuery.placeFilters (q : GroupedQuery) (settings : Settings) (j : Join) :
    Join × Option Predicate :=
  let (pushed, rest) := q.pushBefore settings j
  (pushed, (Predicate.andAll (rest ++ q.after.toList)).map (·.mapColumns fun c => j.resolve c.text))

/-! ## The stages behind a join -/

open Build

/-- Nothing comes behind a fragment that ends with a reference. -/
def unlessBreak (b : Build Unit) : Build Unit := do
  unless (← fragment).isBreak do b

def buildCalls (calls : List FunctionCall) : Build Unit := do
  unless calls.isEmpty do
    addStage ["enrich"] fun label => .enrich label calls

def buildFilter (filter : Option Predicate) : Build Unit :=
  match filter with
  | some p => addStage ["where"] fun label => .filter ⟨label, p⟩
  | none => pure ()

/-- The groups of a query, or its functions where it has no groups. -/
def GroupedQuery.buildGroups (q : GroupedQuery) : Build Unit :=
  if q.keys.isEmpty && q.join.aggregates.isEmpty then buildCalls q.join.calls
  else addStage ["group"] fun label => .group label q.keys q.join.aggregates q.join.calls

/-- The stages of a grouped query behind its join. -/
def GroupedQuery.buildBehind (q : GroupedQuery) (filter : Option Predicate) : Build Unit := do
  buildFilter filter
  q.buildGroups

def HavingQuery.buildBehind (q : HavingQuery) (filter : Option Predicate) : Build Unit := do
  q.grouped.buildBehind filter
  addStage ["having"] fun label => .having label q.grouped.join.content q.having

/-! ## Statements -/

/-- The part of a statement that has filters and groups. -/
def Statement.grouped? : Statement → Option GroupedQuery
  | .join _ => none
  | .grouped q => some q
  | .having q => some q.grouped

/-- The join of a statement with the filters on its sides, and the filter behind it. -/
def Statement.placedJoin (s : Statement) (settings : Settings) (j : Join) :
    Except StatementError (Join × Option Predicate) :=
  match s.grouped? with
  | none => .ok (j, none)
  | some q =>
    match q.unknownKey? j with
    | some key => .error (.unknownGroupKey key q.join.content)
    | none => .ok (q.placeFilters settings j)

/-- The stages of a statement behind its join. -/
def Statement.buildBehind (s : Statement) (filter : Option Predicate) : Build Unit :=
  match s with
  | .join q => buildCalls q.calls
  | .grouped q => q.buildBehind filter
  | .having q => q.buildBehind filter

/-- The plan of a statement whose root fragment has the given role in a join around it. -/
def Statement.compile (s : Statement) (catalog : Catalog) (settings : Settings) (role : Role) :
    Except PlanError Plan := do
  settings.validate.mapError .settings
  let join ← (s.query.join catalog).mapError .build
  let (join, filter) ← (s.placedJoin settings join).mapError .statement
  let build : Build Unit := do
    join.build role
    unlessBreak (s.buildBehind filter)
  match build (Build.start settings.space settings.root) with
  | .ok _ site => return ⟨site.fragment, join.strategy⟩
  | .error e _ => throw (.build e)

end JoinPlan
