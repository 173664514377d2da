import JoinPlan.Predicate.Basic

/-!
# Conditions of joins
-/

namespace JoinPlan

/-- Whether rows of the left side without a match stay. -/
inductive JoinKind where
  | inner | left
deriving DecidableEq, Repr, Inhabited

def JoinKind.text : JoinKind → String
  | .inner => "inner"
  | .left => "left"

/-- What stands behind ON: its text and the predicate that it means. -/
structure JoinCondition where
  content : String
  predicate : Predicate
deriving Inhabited

end JoinPlan
