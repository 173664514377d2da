import JoinPlan.Predicate.Basic

/-!
# Predicates as text

Comparisons stand as they were written. Within a predicate each part that is not a comparison stands
in parentheses.
-/

namespace JoinPlan.Predicate

mutual
def text : Predicate → String
  | .leaf c => c.text
  | .node _ connective children =>
    (" " ++ connective.keyword ++ " ").intercalate (partTexts children)

def partTexts : List Predicate → List String
  | [] => []
  | .leaf c :: ps => c.text :: partTexts ps
  | .node name connective children :: ps =>
    ("(" ++ text (.node name connective children) ++ ")") :: partTexts ps
end

end JoinPlan.Predicate
