import JoinPlan.Proofs.Predicate.Normal

/-!
# One answer under many forms

A node asks its children from left to right until one decides. So the answer of a node, be it a
truth value or an error, depends on the sequence of its children only: neither nesting nodes of one
connective nor naming them nor splitting a conjunction into its parts changes an answer.
-/

namespace JoinPlan

/-! ## Asking from left to right -/

/-- The answer of a child that does not decide for its node. -/
def Connective.neutral : Connective → Bool
  | .and => true
  | .or => false

/-- The answer of a node to a part and a rest. The rest counts when the part does not decide. -/
def Connective.join (connective : Connective) (part rest : Except EvalError Bool) :
    Except EvalError Bool :=
  match part with
  | .error e => .error e
  | .ok answer => if answer = connective.neutral then rest else .ok answer

namespace Connective

variable (connective : Connective) (a b c : Except EvalError Bool)

@[simp] theorem neutral_join : connective.join (.ok connective.neutral) a = a := by
  simp [join]

@[simp] theorem join_neutral : connective.join a (.ok connective.neutral) = a := by
  cases a with
  | error e => rfl
  | ok answer => simp +contextual [join, eq_comm]

theorem join_assoc :
    connective.join (connective.join a b) c = connective.join a (connective.join b c) := by
  cases a with
  | error e => rfl
  | ok answer =>
    by_cases h : answer = connective.neutral
    · rw [h, neutral_join, neutral_join]
    · simp [join, h]

theorem join_eq_ok {part rest : Except EvalError Bool} {answer : Bool} :
    connective.join part rest = .ok answer ↔
      (part = .ok connective.neutral ∧ rest = .ok answer) ∨
        (part = .ok answer ∧ answer ≠ connective.neutral) := by
  cases part with
  | error e => simp [join]
  | ok decided =>
    by_cases h : decided = connective.neutral
    · rw [h, neutral_join]
      simp +contextual [eq_comm]
    · have hjoin : connective.join (.ok decided) rest = .ok decided := if_neg h
      rw [hjoin]
      constructor
      · intro hanswer
        obtain rfl : decided = answer := Except.ok.inj hanswer
        exact Or.inr ⟨rfl, h⟩
      · rintro (⟨hneutral, -⟩ | ⟨hanswer, -⟩)
        · exact absurd (Except.ok.inj hneutral) h
        · exact hanswer

/-- Which error it is does not matter to whether a node has an answer. -/
theorem toOption_join_congr {part part' rest rest' : Except EvalError Bool}
    (hpart : part.toOption = part'.toOption) (hrest : rest.toOption = rest'.toOption) :
    (connective.join part rest).toOption = (connective.join part' rest').toOption := by
  cases part with
  | error e =>
    cases part' with
    | error e' => rfl
    | ok answer' => cases hpart
  | ok answer =>
    cases part' with
    | error e' => cases hpart
    | ok answer' =>
      obtain rfl : answer = answer' := Option.some.inj hpart
      simp only [join]
      split
      · exact hrest
      · rfl

end Connective

namespace Predicate

/-- The answer of a node with the given children. -/
def evaluateUnder (connective : Connective) (ps : List Predicate) (row : Row) :
    Except EvalError Bool :=
  match connective with
  | .and => evaluateAll ps row
  | .or => evaluateAny ps row

variable {connective : Connective} {row : Row}

@[simp] theorem evaluate_node (name : String) (connective : Connective) (ps : List Predicate)
    (row : Row) : (node name connective ps).evaluate row = evaluateUnder connective ps row := by
  cases connective <;> rw [evaluate, evaluateUnder]

@[simp] theorem evaluateUnder_nil : evaluateUnder connective [] row = .ok connective.neutral := by
  cases connective <;> rfl

theorem evaluateUnder_cons (p : Predicate) (ps : List Predicate) :
    evaluateUnder connective (p :: ps) row =
      connective.join (p.evaluate row) (evaluateUnder connective ps row) := by
  cases connective with
  | and =>
    rw [evaluateUnder, evaluateAll]
    rcases p.evaluate row with e | _ | _ <;> rfl
  | or =>
    rw [evaluateUnder, evaluateAny]
    rcases p.evaluate row with e | _ | _ <;> rfl

@[simp] theorem evaluateUnder_singleton (p : Predicate) :
    evaluateUnder connective [p] row = p.evaluate row := by
  rw [evaluateUnder_cons, evaluateUnder_nil, Connective.join_neutral]

theorem evaluateUnder_append (ps qs : List Predicate) :
    evaluateUnder connective (ps ++ qs) row =
      connective.join (evaluateUnder connective ps row) (evaluateUnder connective qs row) := by
  induction ps with
  | nil => simp
  | cons p ps ih => rw [List.cons_append, evaluateUnder_cons, ih, evaluateUnder_cons,
      Connective.join_assoc]

/-! ## Normal form -/

/-- A child answers under a node what its parts answer there one by one. -/
theorem evaluateUnder_partsUnder (p : Predicate) :
    evaluateUnder connective (partsUnder connective p) row = p.evaluate row := by
  cases p with
  | leaf c => rw [partsUnder, evaluateUnder_singleton]
  | node name inner children =>
    rw [partsUnder]
    split
    · rename_i hsame
      rw [evaluate_node, hsame]
    · exact evaluateUnder_singleton _

mutual
theorem evaluate_flatten (row : Row) : (p : Predicate) → p.flatten.evaluate row = p.evaluate row
  | .leaf _ => by rw [flatten]
  | .node _ connective ps => by
    rw [flatten, evaluate_node, evaluate_node, evaluateUnder_flattenUnder connective row ps]

theorem evaluateUnder_flattenUnder (connective : Connective) (row : Row) :
    (ps : List Predicate) →
      evaluateUnder connective (flattenUnder connective ps) row = evaluateUnder connective ps row
  | [] => rfl
  | p :: ps => by
    rw [flattenUnder, evaluateUnder_append, evaluateUnder_partsUnder, evaluate_flatten row p,
      evaluateUnder_flattenUnder connective row ps, evaluateUnder_cons]
end

mutual
/-- Names do not matter to the answer. -/
theorem evaluate_label (row : Row) : (p : Predicate) → (n : Named) →
    (p.label n).1.evaluate row = p.evaluate row
  | .leaf c, n => rfl
  | .node _ connective ps, n => by
    rw [label, evaluate_node, evaluate_node, evaluateUnder_labelAll connective row ps]

theorem evaluateUnder_labelAll (connective : Connective) (row : Row) :
    (ps : List Predicate) → (n : Named) →
      evaluateUnder connective (labelAll ps n).1 row = evaluateUnder connective ps row
  | [], _ => rfl
  | p :: ps, n => by
    rw [labelAll, evaluateUnder_cons, evaluateUnder_cons, evaluate_label row p,
      evaluateUnder_labelAll connective row ps]
end

theorem evaluate_normalize (p : Predicate) (row : Row) :
    p.normalize.evaluate row = p.evaluate row := by
  rw [normalize, evaluate_label, evaluate_flatten]

/-! ## Conjunctions -/

mutual
theorem evaluateUnder_conjuncts (row : Row) : (p : Predicate) →
    evaluateUnder .and p.conjuncts row = p.evaluate row
  | .leaf _ => by rw [conjuncts_leaf, evaluateUnder_singleton]
  | .node _ .and ps => by
    rw [conjuncts_and, evaluate_node, evaluateUnder_conjunctsOf row ps]
  | .node _ .or _ => by rw [conjuncts_or, evaluateUnder_singleton]

theorem evaluateUnder_conjunctsOf (row : Row) : (ps : List Predicate) →
    evaluateUnder .and (conjunctsOf ps) row = evaluateUnder .and ps row
  | [] => rfl
  | p :: ps => by
    rw [conjunctsOf, evaluateUnder_append, evaluateUnder_conjuncts row p,
      evaluateUnder_conjunctsOf row ps, evaluateUnder_cons]
end

/-- The one predicate that stands for a list answers what a conjunction of the list answers. No
predicate stands for an empty list, which holds. -/
theorem evaluate_andAll (ps : List Predicate) (row : Row) :
    ((andAll ps).map (·.evaluate row)).getD (.ok true) = evaluateUnder .and ps row := by
  match ps with
  | [] => rfl
  | [p] => exact (evaluateUnder_singleton p).symm
  | p :: q :: ps => exact evaluate_node "" .and (p :: q :: ps) row

/-- The normal form of a predicate, and the conjunction of its parts, give the answer or the error
that the predicate gives. -/
theorem evaluate_normalize_and_conjuncts (p : Predicate) (row : Row) :
    p.normalize.evaluate row = p.evaluate row ∧
      ((andAll p.conjuncts).map (·.evaluate row)).getD (.ok true) = p.evaluate row := by
  constructor
  · exact evaluate_normalize p row
  · rw [evaluate_andAll, evaluateUnder_conjuncts]

end Predicate

end JoinPlan
