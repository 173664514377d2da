import JoinPlan.Join.Keys

/-!
# Windows of joins

The rows of two streams meet in a window, which matches them by the keys of the join.
-/

namespace JoinPlan

structure JoinWindow where
  space : String
  name : String
  leftKeys : List String
  rightKeys : List String
  kind : JoinKind
  /-- The whole condition, where the keys do not cover it. -/
  residual : Option JoinCondition
  rightAs : Option String
deriving Inhabited

def JoinWindow.ofCondition (space name : String) (on : JoinCondition) (kind : JoinKind)
    (left right : Scope) : Except KeyError JoinWindow := do
  let keys ← JoinKeys.ofCondition on left right
  return ⟨space, name, keys.leftKeys, keys.rightKeys, kind,
    if keys.residual then some on else none, right.asName⟩

end JoinPlan
