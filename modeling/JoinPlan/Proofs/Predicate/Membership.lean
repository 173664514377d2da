import JoinPlan.Proofs.Predicate.Answers

/-!
# Membership in a list

IN and NOT IN ask the literals of their list from left to right whether one is equal to the value. An
IN is the disjunction of these equalities. A NOT IN answers the opposite, and it is the conjunction of
the inequalities with the literals that are not null: a null is equal to nothing, so that a NOT IN
passes it by, while an inequality with a null is false.
-/

namespace JoinPlan

namespace Literal

/-- Whether a literal is a single value. -/
def IsScalar : Literal → Prop
  | .scalar _ _ => True
  | .list _ _ => False

/-- Whether the value of a literal is null. -/
def isNull : Literal → Bool
  | .scalar _ c => c.toJson.isNull
  | .list _ _ => false

theorem IsScalar.exists_value {l : Literal} (h : l.IsScalar) :
    ∃ item, l.value = .ok item ∧ item.isNull = l.isNull := by
  cases l with
  | scalar content c => exact ⟨c.toJson, rfl, rfl⟩
  | list content items => cases h

theorem IsScalar.of_isNull {l : Literal} (h : l.isNull = true) : l.IsScalar := by
  cases l with
  | scalar content c => trivial
  | list content items => cases h

end Literal

/-! ## Equality and inequality -/

namespace CompareOp

variable {op : CompareOp} {value item : Json}

theorem onNullable_of_null (h : value.isNull = true ∨ item.isNull = true) :
    op.onNullable value item = .ok false :=
  if_pos (Bool.or_eq_true_iff.mpr h)

theorem onNullable_of_values (hvalue : value.isNull = false) (hitem : item.isNull = false) :
    op.onNullable value item = op.onValues value item := by
  rw [onNullable, hvalue, hitem, Bool.or_false, if_neg Bool.false_ne_true]

/-- An inequality of two values answers the opposite of their equality. Where one has no answer the
other has none either, but the two errors name their operators. -/
theorem toOption_onValues_notEq (value item : Json) :
    (notEq.onValues value item).toOption = ((eq.onValues value item).map (!·)).toOption := by
  unfold onValues
  split
  · rfl
  · split <;> rfl

end CompareOp

namespace Connective

theorem join_self (connective : Connective) (part : Except EvalError Bool) :
    connective.join part part = part := by
  cases part with
  | error e => rfl
  | ok answer => exact ite_self (Except.ok answer)

theorem map_not_join (part rest : Except EvalError Bool) :
    (or.join part rest).map (!·) = and.join (part.map (!·)) (rest.map (!·)) := by
  rcases part with e | _ | _ <;> rfl

end Connective

/-- One more literal asks one more equality. -/
theorem isMember_cons {value item : Json} {l : Literal} (ls : List Literal)
    (hitem : l.value = .ok item) :
    isMember value (l :: ls) =
      Connective.or.join (CompareOp.eq.onNullable value item) (isMember value ls) := by
  simp only [isMember, hitem]
  rcases CompareOp.eq.onNullable value item with e | _ | _ <;> rfl

namespace Predicate

/-- The comparisons of one operand with each of some literals. -/
def compareEach (left : Operand) (op : CompareOp) (items : List Literal) : List Predicate :=
  items.map fun l => .compare left op (.literal l)

variable {left : Operand} {op : CompareOp} {items : List Literal} {row : Row} {value : Json}

theorem compareEach_cons (l : Literal) (ls : List Literal) :
    compareEach left op (l :: ls) = compare left op (.literal l) :: compareEach left op ls :=
  rfl

theorem evaluateUnder_of_forall_eq {connective : Connective} {ps : List Predicate}
    {answer : Except EvalError Bool} (hne : ps ≠ []) (h : ∀ p ∈ ps, p.evaluate row = answer) :
    evaluateUnder connective ps row = answer := by
  induction ps with
  | nil => exact absurd rfl hne
  | cons p ps ih =>
    obtain ⟨hp, hps⟩ := List.forall_mem_cons.mp h
    cases ps with
    | nil => rw [evaluateUnder_singleton, hp]
    | cons q qs => rw [evaluateUnder_cons, hp, ih (List.cons_ne_nil q qs) hps,
        Connective.join_self]

theorem evaluate_of_evaluateUnder_and {ps : List Predicate}
    (h : evaluateUnder .and ps row = .ok true) : ∀ p ∈ ps, p.evaluate row = .ok true :=
  fun p hp => accepts_iff.mp ((evaluateAll_iff row ps).mp h p hp)

/-! ## Values that are not null -/

theorem evaluate_compare_literal {l : Literal} {item : Json} (hop : ¬(op = .isIn ∨ op = .notIn))
    (hleft : left.value row = .ok value) (hitem : l.value = .ok item) :
    (compare left op (.literal l)).evaluate row = op.onNullable value item := by
  rw [compare, evaluate, Comparison.evaluate, hleft]
  simp only [hop, if_false, Operand.value, hitem]

theorem evaluate_isIn_list (content : String) (items : List Literal)
    (hleft : left.value row = .ok value) (hvalue : value.isNull = false) :
    (compare left .isIn (.literal (.list content items))).evaluate row = isMember value items := by
  rw [compare, evaluate, Comparison.evaluate, hleft]
  simp only [true_or, if_true, CompareOp.onItems, Operand.items, hvalue, Bool.false_eq_true,
    if_false]
  rcases isMember value items with e | _ | _ <;> rfl

theorem evaluate_notIn_list (content : String) (items : List Literal)
    (hleft : left.value row = .ok value) (hvalue : value.isNull = false) :
    (compare left .notIn (.literal (.list content items))).evaluate row =
      (isMember value items).map (!·) := by
  rw [compare, evaluate, Comparison.evaluate, hleft]
  simp only [or_true, if_true, CompareOp.onItems, Operand.items, hvalue, Bool.false_eq_true,
    if_false]
  rcases isMember value items with e | _ | _ <;> rfl

theorem isMember_eq_evaluateUnder (hleft : left.value row = .ok value)
    (hscalar : ∀ l ∈ items, l.IsScalar) :
    isMember value items = evaluateUnder .or (compareEach left .eq items) row := by
  induction items with
  | nil => rfl
  | cons l ls ih =>
    obtain ⟨hl, hls⟩ := List.forall_mem_cons.mp hscalar
    obtain ⟨item, hitem, -⟩ := hl.exists_value
    rw [isMember_cons ls hitem, ih hls, compareEach_cons, evaluateUnder_cons,
      evaluate_compare_literal (by decide) hleft hitem]

/-- The opposite of the loop asks for the inequalities with the literals that are not null. A null
leaves the loop as it was. -/
theorem toOption_not_isMember (hleft : left.value row = .ok value) (hvalue : value.isNull = false)
    (hscalar : ∀ l ∈ items, l.IsScalar) :
    ((isMember value items).map (!·)).toOption =
      (evaluateUnder .and (compareEach left .notEq (items.filter (!·.isNull))) row).toOption := by
  induction items with
  | nil => rfl
  | cons l ls ih =>
    obtain ⟨hl, hls⟩ := List.forall_mem_cons.mp hscalar
    obtain ⟨item, hitem, hsame⟩ := hl.exists_value
    rw [isMember_cons ls hitem]
    by_cases hnull : l.isNull = true
    · have hpassed : CompareOp.eq.onNullable value item = .ok Connective.or.neutral :=
        CompareOp.onNullable_of_null (.inr (hsame.trans hnull))
      rw [hpassed, Connective.neutral_join, ih hls, List.filter_cons_of_neg (by simpa using hnull)]
    · have hitemvalue : item.isNull = false := hsame.trans (Bool.not_eq_true _ ▸ hnull)
      rw [List.filter_cons_of_pos (by simpa using hnull), compareEach_cons, evaluateUnder_cons,
        evaluate_compare_literal (by decide) hleft hitem,
        CompareOp.onNullable_of_values hvalue hitemvalue,
        CompareOp.onNullable_of_values hvalue hitemvalue, Connective.map_not_join]
      exact Connective.toOption_join_congr _ (CompareOp.toOption_onValues_notEq value item).symm
        (ih hls)

/-! ## Operands without a value -/

/-- An operand that is null or has no value gives one answer to all its comparisons. -/
theorem exists_answer_of_no_value
    (hleft : ∀ value, left.value row = .ok value → value.isNull = true) :
    ∃ answer, ∀ op l, (op = .isIn ∨ op = .notIn) ∨ l.IsScalar →
      (compare left op (.literal l)).evaluate row = answer := by
  cases hvalue : left.value row with
  | error e =>
    refine ⟨.error e, fun op l _ => ?_⟩
    rw [compare, evaluate, Comparison.evaluate, hvalue]
  | ok value =>
    have hnull : value.isNull = true := hleft value hvalue
    refine ⟨.ok false, fun op l hl => ?_⟩
    by_cases hop : op = .isIn ∨ op = .notIn
    · rw [compare, evaluate, Comparison.evaluate, hvalue]
      cases l <;> simp only [hop, if_true, CompareOp.onItems, Operand.items, hnull]
    · obtain ⟨item, hitem, -⟩ := (hl.resolve_left hop).exists_value
      rw [evaluate_compare_literal hop hvalue hitem, CompareOp.onNullable_of_null (.inl hnull)]

/-- Comparisons that have one answer have it together, whichever connective joins them. -/
theorem evaluateUnder_compareEach_of_forall_eq {connective : Connective}
    {answer : Except EvalError Bool} (hne : items ≠ [])
    (h : ∀ l ∈ items, (compare left op (.literal l)).evaluate row = answer) :
    evaluateUnder connective (compareEach left op items) row = answer := by
  apply evaluateUnder_of_forall_eq (mt List.map_eq_nil_iff.mp hne)
  intro p hp
  obtain ⟨l, hl, rfl⟩ := List.mem_map.mp hp
  exact h l hl

/-! ## Lists with a null -/

/-- No row satisfies all inequalities when one of the literals is null. -/
theorem evaluateUnder_notEq_ne_true {l : Literal} (hl : l ∈ items) (hnull : l.isNull = true) :
    evaluateUnder .and (compareEach left .notEq items) row ≠ .ok true := by
  intro htrue
  have hcompared : (compare left .notEq (.literal l)).evaluate row = .ok true :=
    evaluate_of_evaluateUnder_and htrue _ (List.mem_map_of_mem hl)
  obtain ⟨item, hitem, hsame⟩ := (Literal.IsScalar.of_isNull hnull).exists_value
  cases hleft : left.value row with
  | error e =>
    rw [compare, evaluate, Comparison.evaluate, hleft] at hcompared
    cases hcompared
  | ok value =>
    have hfalse : CompareOp.notEq.onNullable value item = .ok false :=
      CompareOp.onNullable_of_null (.inr (hsame.trans hnull))
    rw [evaluate_compare_literal (by decide) hleft hitem, hfalse] at hcompared
    cases hcompared

/-- An IN has the answer, or the error, of the disjunction of its equalities. A NOT IN has an answer
where the conjunction of its inequalities has one, and the same, unless there is a value and a null
among the literals: then it has that of the conjunction without the nulls, while no row satisfies the
whole one. -/
theorem evaluate_isIn_and_notIn (left : Operand) (content : String) (row : Row) (hne : items ≠ [])
    (hscalar : ∀ l ∈ items, l.IsScalar) :
    (compare left .isIn (.literal (.list content items))).evaluate row =
        (or (compareEach left .eq items)).evaluate row ∧
      ((∀ value, left.value row = .ok value → value.isNull = true) ∨
          (∀ l ∈ items, l.isNull = false) →
        ((compare left .notIn (.literal (.list content items))).evaluate row).toOption =
          ((and (compareEach left .notEq items)).evaluate row).toOption) ∧
      (∀ value, left.value row = .ok value → value.isNull = false →
        ((compare left .notIn (.literal (.list content items))).evaluate row).toOption =
          ((and (compareEach left .notEq (items.filter (!·.isNull)))).evaluate row).toOption) ∧
      ((∃ l ∈ items, l.isNull = true) →
        (and (compareEach left .notEq items)).evaluate row ≠ .ok true) := by
  rw [or, and, and, evaluate_node, evaluate_node, evaluate_node]
  have hnulls : (∃ l ∈ items, l.isNull = true) →
      evaluateUnder .and (compareEach left .notEq items) row ≠ .ok true :=
    fun ⟨_, hl, hnull⟩ => evaluateUnder_notEq_ne_true hl hnull
  by_cases hpresent : ∃ value, left.value row = .ok value ∧ value.isNull = false
  · obtain ⟨value, hleft, hvalue⟩ := hpresent
    have hnotIn : ((compare left .notIn (.literal (.list content items))).evaluate row).toOption =
        (evaluateUnder .and (compareEach left .notEq (items.filter (!·.isNull))) row).toOption := by
      rw [evaluate_notIn_list content items hleft hvalue, toOption_not_isMember hleft hvalue hscalar]
    refine ⟨?_, ?_, fun _ _ _ => hnotIn, hnulls⟩
    · rw [evaluate_isIn_list content items hleft hvalue, isMember_eq_evaluateUnder hleft hscalar]
    · rintro (hnone | hfull)
      · rw [hnone value hleft] at hvalue
        cases hvalue
      · have hall : items.filter (!·.isNull) = items :=
          List.filter_eq_self.mpr fun l hl => by rw [hfull l hl]; rfl
        rw [hnotIn, hall]
  · have hnone : ∀ value, left.value row = .ok value → value.isNull = true :=
      fun value hleft => Bool.of_not_eq_false fun hvalue => hpresent ⟨value, hleft, hvalue⟩
    -- then all comparisons with the operand have one answer, and so the nodes above them
    obtain ⟨answer, hanswer⟩ := exists_answer_of_no_value hnone
    have hnode (connective : Connective) (op : CompareOp) :
        evaluateUnder connective (compareEach left op items) row = answer :=
      evaluateUnder_compareEach_of_forall_eq hne fun l hl => hanswer op l (.inr (hscalar l hl))
    refine ⟨?_, fun _ => ?_, fun value hleft hvalue => ?_, hnulls⟩
    · rw [hanswer .isIn _ (.inl (.inl rfl)), hnode]
    · rw [hanswer .notIn _ (.inl (.inr rfl)), hnode]
    · exact absurd ⟨value, hleft, hvalue⟩ hpresent

/-! ### A list with a null -/

def secondOrder : Row :=
  Dict.ofList [("id", .int 2)]

def idColumn : Operand :=
  .column (.bare "id")

/-- The list `(1, NULL)`. -/
def firstOrNone : List Literal :=
  [.scalar "1" (.int 1), .scalar "NULL" .null]

/-- The order 2 is not among `(1, NULL)`, as it is unequal to 1. A row without an `id` satisfies
neither the NOT IN nor the inequalities. -/
theorem evaluate_isIn_and_notIn_secondOrder :
    firstOrNone ≠ [] ∧ (∀ l ∈ firstOrNone, l.IsScalar) ∧
      (compare idColumn .isIn (.literal (.list "(1, NULL)" firstOrNone))).evaluate secondOrder =
        (or (compareEach idColumn .eq firstOrNone)).evaluate secondOrder ∧
      ((compare idColumn .notIn (.literal (.list "(1, NULL)" firstOrNone))).evaluate
          secondOrder).toOption =
        ((and (compareEach idColumn .notEq (firstOrNone.filter (!·.isNull)))).evaluate
          secondOrder).toOption ∧
      (and (compareEach idColumn .notEq firstOrNone)).evaluate secondOrder ≠ .ok true ∧
      ((compare idColumn .notIn (.literal (.list "(1, NULL)" firstOrNone))).evaluate
          Dict.empty).toOption =
        ((and (compareEach idColumn .notEq firstOrNone)).evaluate Dict.empty).toOption := by
  have hne : firstOrNone ≠ [] := List.cons_ne_nil _ _
  have hscalar : ∀ l ∈ firstOrNone, l.IsScalar := by
    simp [firstOrNone, Literal.IsScalar]
  have hleft : idColumn.value secondOrder = .ok (.int 2) := rfl
  have hmissing : ∀ value, idColumn.value Dict.empty = .ok value → value.isNull = true := by
    rintro value ⟨⟩
    rfl
  have hnull : ∃ l ∈ firstOrNone, l.isNull = true :=
    ⟨.scalar "NULL" .null, List.mem_cons_of_mem _ (List.mem_singleton_self _), rfl⟩
  have hsecond := evaluate_isIn_and_notIn idColumn "(1, NULL)" secondOrder hne hscalar
  have hempty := evaluate_isIn_and_notIn idColumn "(1, NULL)" Dict.empty hne hscalar
  exact ⟨hne, hscalar, hsecond.1, hsecond.2.2.1 _ hleft rfl, hsecond.2.2.2 hnull,
    hempty.2.1 (.inl hmissing)⟩

/-- The order 2 satisfies `id NOT IN (1, NULL)`, though it does not satisfy
`id <> 1 AND id <> NULL`. -/
theorem notIn_without_inequalities_secondOrder :
    ((compare idColumn .notIn (.literal (.list "(1, NULL)" firstOrNone))).evaluate
        secondOrder).toOption = some true ∧
      ((and (compareEach idColumn .notEq firstOrNone)).evaluate secondOrder).toOption =
        some false :=
  ⟨rfl, rfl⟩

end Predicate

end JoinPlan
