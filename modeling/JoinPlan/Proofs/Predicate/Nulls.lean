import JoinPlan.Proofs.Predicate.Order
import JoinPlan.Proofs.Predicate.Rename

/-!
# Predicates on rows with nulls

A key that a row does not have stands for a null there. No comparison that reads a null is satisfied,
whatever its operator, and so no conjunction with such a part is. A predicate of nothing but such
comparisons is not satisfied either, as it has no other answers than they have.
-/

namespace JoinPlan

variable {row : Row}

theorem Row.valueAt_of_absent {key : String} (h : row.contains key = false) :
    row.valueAt key = .null := by
  have hnone : row.get? key = none := by simpa [Dict.contains] using h
  rw [valueAt, hnone, Option.getD_none]

theorem Row.valueAt_eq_null_iff {key : String} :
    row.valueAt key = .null ↔ row.get? key = none ∨ row.get? key = some .null := by
  rw [valueAt]
  cases row.get? key <;> simp

theorem Operand.column?_eq_some {o : Operand} {c : Column} :
    o.column? = some c ↔ o = .column c := by
  cases o <;> simp [column?]

namespace CompareOp

variable (op : CompareOp)

theorem onNullable_null_left (right : Json) : op.onNullable .null right = .ok false := rfl

theorem onNullable_null_right (left : Json) : op.onNullable left .null = .ok false :=
  if_pos (Bool.or_true _)

theorem onItems_null_ne_true (right : Operand) : op.onItems .null right ≠ .ok true := by
  unfold onItems
  cases right.items <;> nofun

theorem onItems_column_ne_true (left : Json) (c : Column) :
    op.onItems left (.column c) ≠ .ok true := by
  nofun

end CompareOp

namespace Comparison

variable {c : Comparison} {column : Column}

theorem evaluate_ne_true_of_null_left (hleft : c.left = .column column)
    (hnull : row.valueAt column.text = .null) : c.evaluate row ≠ .ok true := by
  have hvalue : c.left.value row = .ok .null := by rw [hleft, Operand.value, hnull]
  rw [evaluate, hvalue]
  by_cases hop : c.op = .isIn ∨ c.op = .notIn
  · simpa only [hop, if_true] using c.op.onItems_null_ne_true c.right
  · simp only [hop, if_false]
    cases c.right.value row <;> simp [CompareOp.onNullable_null_left]

theorem evaluate_ne_true_of_null_right (hright : c.right = .column column)
    (hnull : row.valueAt column.text = .null) : c.evaluate row ≠ .ok true := by
  have hvalue : c.right.value row = .ok .null := by rw [hright, Operand.value, hnull]
  rw [evaluate]
  cases c.left.value row with
  | error e => simp
  | ok left =>
    by_cases hop : c.op = .isIn ∨ c.op = .notIn
    · simpa only [hop, if_true, hright] using c.op.onItems_column_ne_true left column
    · simp [hop, hvalue, CompareOp.onNullable_null_right]

/-- A comparison that reads a null is false or has no answer. -/
theorem evaluate_ne_true_of_null (hcolumn : column ∈ c.columns)
    (hnull : row.valueAt column.text = .null) : c.evaluate row ≠ .ok true := by
  rw [columns_eq, List.mem_append, Option.mem_toList, Option.mem_toList] at hcolumn
  rcases hcolumn with h | h
  · exact evaluate_ne_true_of_null_left (Operand.column?_eq_some.mp h) hnull
  · exact evaluate_ne_true_of_null_right (Operand.column?_eq_some.mp h) hnull

end Comparison

namespace Predicate

theorem accepts_leaf_of_null {c : Comparison} {column : Column} (hcolumn : column ∈ c.columns)
    (hnull : row.valueAt column.text = .null) : (leaf c).accepts row = false := by
  rw [← Bool.not_eq_true, accepts_iff, evaluate]
  exact Comparison.evaluate_ne_true_of_null hcolumn hnull

/-- A conjunction is not satisfied when one of its parts is a comparison that reads a null. -/
theorem accepts_of_null_part {p : Predicate} {c : Comparison} {column : Column}
    (hpart : leaf c ∈ p.conjuncts) (hcolumn : column ∈ c.columns)
    (hnull : row.valueAt column.text = .null) : p.accepts row = false := by
  rw [← Bool.not_eq_true, ← passes_conjuncts]
  intro hpasses
  have haccepts := hpasses _ hpart
  rw [accepts_leaf_of_null hcolumn hnull] at haccepts
  cases haccepts

/-! ## Predicates without values -/

theorem mem_leaves_node {c : Comparison} {name : String} {connective : Connective} {p : Predicate}
    {ps : List Predicate} (hp : p ∈ ps) (hc : c ∈ p.leaves) :
    c ∈ (node name connective ps).leaves := by
  rw [leaves]
  induction hp with
  | head => exact List.mem_append_left _ hc
  | tail _ _ ih => exact List.mem_append_right _ ih

/-- What is settled is settled by one of the comparisons, when every node has a child. -/
theorem Settled.exists_leaf {p : Predicate} {a : Bool} (h : Settled row p a) (hfilled : p.Filled) :
    ∃ c ∈ p.leaves, c.evaluate row = .ok a := by
  induction h with
  | leaf h => exact ⟨_, List.mem_singleton_self _, h⟩
  | all _ _ ih =>
    cases hfilled with
    | node hne hps =>
      obtain ⟨q, hq⟩ := List.exists_mem_of_ne_nil _ hne
      obtain ⟨c, hc, hanswer⟩ := ih q hq (hps q hq)
      exact ⟨c, mem_leaves_node hq hc, hanswer⟩
  | one hq _ _ ih =>
    cases hfilled with
    | node _ hps =>
      obtain ⟨c, hc, hanswer⟩ := ih (hps _ hq)
      exact ⟨c, mem_leaves_node hq hc, hanswer⟩

/-- A row does not satisfy a predicate each comparison of which reads a key that the row does not have
or that has a null. -/
theorem accepts_of_null_leaves {p : Predicate} {row : Row} (hfilled : p.Filled)
    (hnull : ∀ c ∈ p.leaves, ∃ column ∈ c.columns,
      row.get? column.text = none ∨ row.get? column.text = some .null) :
    p.accepts row = false := by
  rw [← Bool.not_eq_true, accepts_iff]
  intro htrue
  obtain ⟨c, hc, hanswer⟩ := (Settled.of_evaluate p htrue).exists_leaf hfilled
  obtain ⟨column, hcolumn, hlacks⟩ := hnull c hc
  have hnullvalue : row.valueAt column.text = .null := Row.valueAt_eq_null_iff.mpr hlacks
  exact Comparison.evaluate_ne_true_of_null hcolumn hnullvalue hanswer

/-! ### An order without a payment -/

/-- A row of a left join that has no match. -/
def unpaidOrder : Row :=
  Dict.ofList [("id", .int 1), ("p.status", .null)]

/-- Payments of another amount than 5, payments of no listed status for another order, and an amount
that stands where a list belongs. -/
def paidOtherwise : Predicate :=
  or [
    .compare (.column ⟨some "p", "amount"⟩) .notEq (.literal (.scalar "5" (.int 5))),
    and [
      .compare (.column ⟨some "p", "status"⟩) .notIn
        (.literal (.list "('void', 'open')"
          [.scalar "'void'" (.text "void"), .scalar "'open'" (.text "open")])),
      .compare (.column (.bare "id")) .notEq (.column ⟨some "p", "order_id"⟩)],
    .compare (.literal (.scalar "5" (.int 5))) .notIn (.column ⟨some "p", "amount"⟩)]

theorem accepts_of_null_leaves_unpaidOrder :
    paidOtherwise.Filled ∧
      (∀ c ∈ paidOtherwise.leaves, ∃ column ∈ c.columns,
        unpaidOrder.get? column.text = none ∨ unpaidOrder.get? column.text = some .null) ∧
      paidOtherwise.accepts unpaidOrder = false := by
  have hfilled : paidOtherwise.Filled := by
    refine .node (List.cons_ne_nil _ _) ?_
    simp only [List.forall_mem_cons]
    refine ⟨.leaf _, .node (List.cons_ne_nil _ _) ?_, .leaf _, List.forall_mem_nil _⟩
    simp only [List.forall_mem_cons]
    exact ⟨.leaf _, .leaf _, List.forall_mem_nil _⟩
  have hnull : ∀ c ∈ paidOtherwise.leaves, ∃ column ∈ c.columns,
      unpaidOrder.get? column.text = none ∨ unpaidOrder.get? column.text = some .null := by
    simp only [paidOtherwise, or, and, compare, leaves, leavesOf, List.append_nil,
      List.cons_append, List.nil_append, List.forall_mem_cons]
    have hamount : unpaidOrder.get? "p.amount" = none := by
      simp [unpaidOrder, Dict.ofList, Dict.get?_insert]
    have hstatus : unpaidOrder.get? "p.status" = some .null := by
      simp [unpaidOrder, Dict.ofList, Dict.get?_insert]
    have horder : unpaidOrder.get? "p.order_id" = none := by
      simp [unpaidOrder, Dict.ofList, Dict.get?_insert]
    exact ⟨⟨⟨some "p", "amount"⟩, .head _, .inl hamount⟩,
      ⟨⟨some "p", "status"⟩, .head _, .inr hstatus⟩,
      ⟨⟨some "p", "order_id"⟩, .tail _ (.head _), .inl horder⟩,
      ⟨⟨some "p", "amount"⟩, .head _, .inl hamount⟩, List.forall_mem_nil _⟩
  exact ⟨hfilled, hnull, accepts_of_null_leaves hfilled hnull⟩

end Predicate

end JoinPlan
