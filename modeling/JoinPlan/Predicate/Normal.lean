import JoinPlan.Predicate.Basic

/-!
# Normal form of predicates

A predicate is in normal form when no node has a child of its own connective, and when its
comparisons are named `leaf_0`, `leaf_1`, … and its nodes `relation_0`, `relation_1`, … from left to
right, each node before its children.
-/

namespace JoinPlan.Predicate

/-! ## Flattening -/

/-- What a predicate puts among the children of a node: its own children when it has the connective
of the node, and else itself. -/
def partsUnder (connective : Connective) : Predicate → List Predicate
  | .leaf c => [.leaf c]
  | .node name inner children => if inner = connective then children else [.node name inner children]

mutual
/-- The predicate with nested nodes of one connective made one node. -/
def flatten : Predicate → Predicate
  | .leaf c => .leaf c
  | .node name connective children => .node name connective (flattenUnder connective children)

def flattenUnder (connective : Connective) : List Predicate → List Predicate
  | [] => []
  | p :: ps => partsUnder connective (flatten p) ++ flattenUnder connective ps
end

/-! ## Naming -/

/-- How many comparisons and how many nodes have a name. -/
structure Named where
  leaves : Nat
  nodes : Nat

mutual
/-- The predicate with names that count on from the given numbers, and the numbers after it. -/
def label : Predicate → Named → Predicate × Named
  | .leaf c, n =>
    (.leaf { c with name := "leaf_" ++ toString n.leaves }, { n with leaves := n.leaves + 1 })
  | .node _ connective children, n =>
    let (named, after) := labelAll children { n with nodes := n.nodes + 1 }
    (.node ("relation_" ++ toString n.nodes) connective named, after)

def labelAll : List Predicate → Named → List Predicate × Named
  | [], n => ([], n)
  | p :: ps, n =>
    let (named, between) := label p n
    let (rest, after) := labelAll ps between
    (named :: rest, after)
end

/-- The predicate in normal form. -/
def normalize (p : Predicate) : Predicate :=
  (p.flatten.label ⟨0, 0⟩).1

end JoinPlan.Predicate
