import JoinPlan.Predicate.Normal
import JoinPlan.Proofs.Predicate.Conjuncts

/-!
# Normal form and conjunctions

Under a conjunction the normal form has the parts of the conjunction, each flattened and named. So
both take a conjunction apart in one way.
-/

namespace JoinPlan.Predicate

/-! ## Flattening -/

mutual
theorem partsUnder_flatten : (p : Predicate) →
    partsUnder .and (flatten p) = p.conjuncts.map flatten
  | .leaf _ => by simp [flatten, partsUnder]
  | .node _ .and ps => by
    rw [flatten, partsUnder, if_pos rfl, conjuncts_and, flattenUnder_and ps]
  | .node _ .or _ => by simp [flatten, partsUnder]

/-- The children of a conjunction in normal form are its parts. -/
theorem flattenUnder_and : (ps : List Predicate) →
    flattenUnder .and ps = (conjunctsOf ps).map flatten
  | [] => rfl
  | p :: ps => by
    rw [flattenUnder, partsUnder_flatten p, flattenUnder_and ps, conjunctsOf, List.map_append]
end

/-! ## Comparisons of the parts -/

mutual
/-- The comparisons of a predicate are those of its parts. -/
theorem flatMap_leaves_conjuncts : (p : Predicate) → p.conjuncts.flatMap leaves = p.leaves
  | .leaf _ => by simp
  | .node _ .and ps => by rw [conjuncts_and, flatMap_leaves_conjunctsOf ps, leaves]
  | .node _ .or _ => by simp

theorem flatMap_leaves_conjunctsOf : (ps : List Predicate) →
    (conjunctsOf ps).flatMap leaves = leavesOf ps
  | [] => rfl
  | p :: ps => by
    rw [conjunctsOf, List.flatMap_append, flatMap_leaves_conjuncts p,
      flatMap_leaves_conjunctsOf ps, leavesOf]
end

/-! ## Nodes with children -/

/-- Whether every node has a child. -/
inductive Filled : Predicate → Prop
  | leaf (c : Comparison) : Filled (.leaf c)
  | node {name : String} {connective : Connective} {ps : List Predicate} (hne : ps ≠ [])
      (hps : ∀ p ∈ ps, Filled p) : Filled (.node name connective ps)

mutual
theorem Filled.of_mem_conjuncts {q : Predicate} : (p : Predicate) → Filled p →
    q ∈ p.conjuncts → Filled q
  | .leaf _, h, hq => by
    rw [conjuncts_leaf, List.mem_singleton] at hq
    exact hq ▸ h
  | .node _ .and ps, .node _ hps, hq => by
    rw [conjuncts_and] at hq
    exact Filled.of_mem_conjunctsOf ps hps hq
  | .node _ .or _, h, hq => by
    rw [conjuncts_or, List.mem_singleton] at hq
    exact hq ▸ h

theorem Filled.of_mem_conjunctsOf {q : Predicate} : (ps : List Predicate) →
    (∀ p ∈ ps, Filled p) → q ∈ conjunctsOf ps → Filled q
  | [], _, hq => by cases hq
  | p :: ps, h, hq => by
    rw [conjunctsOf, List.mem_append] at hq
    rcases hq with hq | hq
    · exact Filled.of_mem_conjuncts p (h p List.mem_cons_self) hq
    · exact Filled.of_mem_conjunctsOf ps (fun r hr => h r (List.mem_cons_of_mem p hr)) hq
end

theorem Filled.leaves_ne_nil {p : Predicate} (h : p.Filled) : p.leaves ≠ [] := by
  induction h with
  | leaf c => simp [leaves]
  | node hne hps ih =>
    rename_i ps
    cases ps with
    | nil => exact absurd rfl hne
    | cons p ps =>
      rw [leaves, leavesOf]
      exact List.append_ne_nil_of_left_ne_nil (ih p List.mem_cons_self) _

theorem Filled.conjuncts_ne_nil {p : Predicate} (h : p.Filled) : p.conjuncts ≠ [] := by
  intro hnil
  apply h.leaves_ne_nil
  rw [← flatMap_leaves_conjuncts, hnil, List.flatMap_nil]

end JoinPlan.Predicate
