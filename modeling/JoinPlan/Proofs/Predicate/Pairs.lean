import JoinPlan.Predicate.Normal

/-!
# Nodes of two children

Where AND and OR join two parts each, a node of more parts is nested to the left. This is the same in
normal form, as are predicates that differ in nothing but their names.
-/

namespace JoinPlan.Predicate

/-- Whether every node has two children or more and all comparisons are of a kind. -/
inductive Branching (P : Comparison → Prop) : Predicate → Prop
  | leaf {c : Comparison} (h : P c) : Branching P (.leaf c)
  | node {name : String} {connective : Connective} {ps : List Predicate} (htwo : 2 ≤ ps.length)
      (hps : ∀ p ∈ ps, Branching P p) : Branching P (.node name connective ps)

/-! ## Names -/

mutual
def unnamed : Predicate → Predicate
  | .leaf c => .leaf { c with name := "" }
  | .node _ connective children => .node "" connective (unnamedOf children)

def unnamedOf : List Predicate → List Predicate
  | [] => []
  | p :: ps => unnamed p :: unnamedOf ps
end

theorem unnamedOf_append (ps qs : List Predicate) :
    unnamedOf (ps ++ qs) = unnamedOf ps ++ unnamedOf qs := by
  induction ps with
  | nil => rfl
  | cons p ps ih => rw [List.cons_append, unnamedOf, unnamedOf, ih, List.cons_append]

theorem partsUnder_unnamed (connective : Connective) (p : Predicate) :
    partsUnder connective p.unnamed = unnamedOf (partsUnder connective p) := by
  cases p with
  | leaf => rfl
  | node name inner children =>
    by_cases h : inner = connective
    · simp [unnamed, partsUnder, h]
    · simp [unnamed, partsUnder, h, unnamedOf]

mutual
/-- The names that a predicate had are lost when it is given others. -/
theorem label_unnamed : (p : Predicate) → (n : Named) → label p.unnamed n = label p n
  | .leaf _, _ => rfl
  | .node _ _ children, n => by
    rw [unnamed, label, label, labelAll_unnamedOf children]

theorem labelAll_unnamedOf : (ps : List Predicate) → (n : Named) →
    labelAll (unnamedOf ps) n = labelAll ps n
  | [], _ => rfl
  | p :: ps, n => by
    simp only [unnamedOf, labelAll, label_unnamed p, labelAll_unnamedOf ps]
end

/-! ## Pairs -/

mutual
/-- The predicate with all its nodes nested to the left, and without names. -/
def paired : Predicate → Predicate
  | .leaf c => .leaf { c with name := "" }
  | .node _ connective [] => .node "" connective []
  | .node _ connective (p :: ps) => pairedUnder connective (paired p) ps

/-- A predicate with others joined to it one after the other. -/
def pairedUnder (connective : Connective) : Predicate → List Predicate → Predicate
  | left, [] => left
  | left, p :: ps => pairedUnder connective (.node "" connective [left, paired p]) ps
end

variable {connective : Connective} {left p : Predicate} {ps : List Predicate}

theorem unnamedOf_flattenUnder_cons (connective : Connective) (p : Predicate) (ps : List Predicate) :
    unnamedOf (flattenUnder connective (p :: ps)) =
      unnamedOf (partsUnder connective p.flatten) ++ unnamedOf (flattenUnder connective ps) :=
  unnamedOf_append _ _

theorem flatten_pair (h : p.paired.flatten = p.flatten.unnamed) :
    (Predicate.node "" connective [left, p.paired]).flatten =
      .node "" connective
        (partsUnder connective left.flatten ++ unnamedOf (partsUnder connective p.flatten)) := by
  simp only [flatten, flattenUnder, h, partsUnder_unnamed, List.append_nil]

/-- All parts become children of one node, as the pairs have its connective. -/
theorem flatten_pairedUnder (h : ∀ q ∈ p :: ps, q.paired.flatten = q.flatten.unnamed) :
    (pairedUnder connective left (p :: ps)).flatten =
      .node "" connective
        (partsUnder connective left.flatten ++ unnamedOf (flattenUnder connective (p :: ps))) := by
  have hpair : (Predicate.node "" connective [left, p.paired]).flatten =
      .node "" connective
        (partsUnder connective left.flatten ++ unnamedOf (partsUnder connective p.flatten)) :=
    flatten_pair (h p List.mem_cons_self)
  induction ps generalizing left p with
  | nil =>
    rw [pairedUnder, pairedUnder, hpair, unnamedOf_flattenUnder_cons, flattenUnder, unnamedOf,
      List.append_nil]
  | cons q ps ih =>
    have hrest : ∀ r ∈ q :: ps, r.paired.flatten = r.flatten.unnamed :=
      fun r hr => h r (List.mem_cons_of_mem p hr)
    rw [pairedUnder, ih hrest (flatten_pair (hrest q List.mem_cons_self)), hpair, partsUnder,
      if_pos rfl, unnamedOf_flattenUnder_cons connective p, List.append_assoc]

theorem flatten_paired {P : Comparison → Prop} (h : p.Branching P) :
    p.paired.flatten = p.flatten.unnamed := by
  induction h with
  | leaf => rfl
  | @node name connective ps htwo hps ih =>
    obtain ⟨p, q, ps, rfl⟩ : ∃ p q rest, ps = p :: q :: rest := by
      match ps, htwo with
      | p :: q :: rest, _ => exact ⟨p, q, rest, rfl⟩
    have hrest : ∀ r ∈ q :: ps, r.paired.flatten = r.flatten.unnamed :=
      fun r hr => ih r (List.mem_cons_of_mem p hr)
    rw [paired, flatten_pairedUnder hrest, ih p List.mem_cons_self, partsUnder_unnamed, flatten,
      unnamed, unnamedOf_flattenUnder_cons connective p]

/-- Nesting to the left keeps the normal form of a predicate whose nodes have two children or more. -/
theorem normalize_paired {P : Comparison → Prop} (h : p.Branching P) :
    p.paired.normalize = p.normalize := by
  rw [normalize, normalize, flatten_paired h, label_unnamed]

end JoinPlan.Predicate
