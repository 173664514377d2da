import JoinPlan.Predicate.Evaluate

/-!
# Conjunctions and their parts

A row satisfies a conjunction when it satisfies each part of it, whether a part that it fails is
false or has no answer. So a predicate may be split into its parts and put together again.
-/

namespace JoinPlan

/-- Whether a row gets through a list of filters. -/
def Passes (filters : List Predicate) (row : Row) : Prop :=
  ∀ p ∈ filters, p.accepts row = true

instance (filters : List Predicate) (row : Row) : Decidable (Passes filters row) :=
  inferInstanceAs (Decidable (∀ p ∈ filters, p.accepts row = true))

namespace Passes

variable {p : Predicate} {ps qs : List Predicate} {groups : List (List Predicate)} {row : Row}

theorem nil : Passes [] row := by
  intro p hp
  cases hp

theorem cons_iff : Passes (p :: ps) row ↔ p.accepts row = true ∧ Passes ps row :=
  List.forall_mem_cons

theorem append_iff : Passes (ps ++ qs) row ↔ Passes ps row ∧ Passes qs row :=
  List.forall_mem_append

theorem perm_iff (h : ps.Perm qs) : Passes ps row ↔ Passes qs row :=
  forall_congr' fun _ => imp_congr_left h.mem_iff

theorem flatten_iff : Passes groups.flatten row ↔ ∀ ps ∈ groups, Passes ps row :=
  List.forall_mem_flatten

end Passes

namespace Predicate

/-! ## Conjunctions -/

theorem accepts_iff {p : Predicate} {row : Row} :
    p.accepts row = true ↔ p.evaluate row = .ok true := by
  unfold accepts
  cases p.evaluate row <;> simp

theorem accepts_eq_getD (p : Predicate) (row : Row) :
    p.accepts row = (p.evaluate row).toOption.getD false := by
  unfold accepts
  cases p.evaluate row <;> rfl

/-- The parts behind one that a row fails are not asked, and they do not count. -/
theorem evaluateAll_iff (row : Row) (ps : List Predicate) :
    evaluateAll ps row = .ok true ↔ Passes ps row := by
  induction ps with
  | nil => exact iff_of_true rfl Passes.nil
  | cons p ps ih =>
    rw [Passes.cons_iff, accepts_iff, evaluateAll, ← ih]
    rcases p.evaluate row with e | _ | _ <;> simp

theorem accepts_and_iff (name : String) (ps : List Predicate) (row : Row) :
    (node name .and ps).accepts row = true ↔ Passes ps row := by
  rw [accepts_iff, evaluate, evaluateAll_iff]

/-! ## Splitting -/

@[simp] theorem conjuncts_leaf (c : Comparison) : (leaf c).conjuncts = [leaf c] := by
  simp [conjuncts]

@[simp] theorem conjuncts_and (name : String) (ps : List Predicate) :
    (node name .and ps).conjuncts = conjunctsOf ps := by
  rw [conjuncts]

@[simp] theorem conjuncts_or (name : String) (ps : List Predicate) :
    (node name .or ps).conjuncts = [node name .or ps] := by
  simp [conjuncts]

mutual
theorem passes_conjuncts (row : Row) : (p : Predicate) →
    (Passes p.conjuncts row ↔ p.accepts row = true)
  | .leaf _ => by simp [Passes]
  | .node name .and children => by
    rw [conjuncts_and, passes_conjunctsOf row children, accepts_and_iff]
  | .node _ .or _ => by simp [Passes]

theorem passes_conjunctsOf (row : Row) : (ps : List Predicate) →
    (Passes (conjunctsOf ps) row ↔ Passes ps row)
  | [] => Iff.rfl
  | p :: ps => by
    rw [conjunctsOf, Passes.append_iff, passes_conjuncts row p, passes_conjunctsOf row ps,
      Passes.cons_iff]
end

/-! ## Putting together -/

theorem isSome_andAll {ps : List Predicate} : (andAll ps).isSome = true ↔ ps ≠ [] := by
  match ps with
  | [] => exact iff_of_false nofun fun h => h rfl
  | [p] => exact iff_of_true rfl (List.cons_ne_nil _ _)
  | p :: q :: ps => exact iff_of_true rfl (List.cons_ne_nil _ _)

/-- The one filter that stands for a list lets the same rows through. -/
theorem passes_andAll (ps : List Predicate) (row : Row) :
    Passes (andAll ps).toList row ↔ Passes ps row := by
  match ps with
  | [] => exact Iff.rfl
  | [p] => exact Iff.rfl
  | p :: q :: ps =>
    show Passes [node "" .and (p :: q :: ps)] row ↔ _
    rw [Passes.cons_iff, accepts_and_iff]
    exact and_iff_left Passes.nil

theorem all_andAll (ps : List Predicate) (row : Row) :
    (andAll ps).all (·.accepts row) = true ↔ Passes ps row := by
  rw [← passes_andAll, Passes]
  cases andAll ps <;> simp

end Predicate

end JoinPlan
