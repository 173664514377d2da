import JoinPlan.Proofs.Predicate.Answers

/-!
# Predicates under new names

What a predicate answers depends on a row only through the values under the names of its columns.
So two renamings of one predicate give the same answer on two rows that have the same values under
the new names, and a renamed predicate answers what the predicate answers on a row that has these
values under the old names. The texts of errors name columns and may differ.
-/

namespace JoinPlan

/-- The column that a renaming makes of a column. One that it does not know stays. -/
def renamed (f : Column → Option Column) (c : Column) : Column :=
  (f c).getD c

/-- Whether a row has under the names that `f` gives what another has under those that `g` gives. -/
def SameUnder (f g : Column → Option Column) (row other : Row) (cs : List Column) : Prop :=
  ∀ c ∈ cs, row.valueAt (renamed f c).text = other.valueAt (renamed g c).text

variable {f g : Column → Option Column} {row other : Row}

theorem SameUnder.mono {cs ds : List Column} (h : SameUnder f g row other cs) (hsub : ds ⊆ cs) :
    SameUnder f g row other ds :=
  fun c hc => h c (hsub hc)

/-! ## Operands and comparisons -/

theorem Operand.value_mapColumn {o : Operand} (h : SameUnder f g row other o.column?.toList) :
    (o.mapColumn f).value row = (o.mapColumn g).value other := by
  cases o with
  | column c => exact congrArg Except.ok (h c (by simp [column?]))
  | literal l => rfl

theorem CompareOp.onItems_mapColumn (op : CompareOp) (value : Json) (o : Operand) :
    (op.onItems value (o.mapColumn f)).toOption = (op.onItems value (o.mapColumn g)).toOption := by
  cases o <;> rfl

theorem Comparison.columns_eq (c : Comparison) :
    c.columns = c.left.column?.toList ++ c.right.column?.toList := by
  unfold columns
  cases c.left <;> cases c.right <;> rfl

theorem Operand.column?_mapColumn (o : Operand) :
    (o.mapColumn f).column? = o.column?.map (renamed f) := by
  cases o <;> rfl

theorem Comparison.columns_mapColumns (c : Comparison) :
    (c.mapColumns f).columns = c.columns.map (renamed f) := by
  rw [columns_eq, columns_eq, mapColumns, Operand.column?_mapColumn, Operand.column?_mapColumn,
    List.map_append, Option.toList_map, Option.toList_map]

theorem Comparison.evaluate_mapColumns {c : Comparison} (h : SameUnder f g row other c.columns) :
    ((c.mapColumns f).evaluate row).toOption = ((c.mapColumns g).evaluate other).toOption := by
  rw [columns_eq] at h
  have hleft := Operand.value_mapColumn (h.mono (List.subset_append_left _ _))
  have hright := Operand.value_mapColumn (h.mono (List.subset_append_right _ _))
  simp only [evaluate, mapColumns, hleft, hright]
  cases (c.left.mapColumn g).value other with
  | error e => rfl
  | ok left =>
    by_cases hop : c.op = .isIn ∨ c.op = .notIn
    · simpa only [hop, if_true] using CompareOp.onItems_mapColumn c.op left c.right
    · simp only [hop, if_false]

/-! ## Predicates -/

namespace Predicate

theorem columns_leaf (c : Comparison) : (leaf c).columns = c.columns := by
  simp [columns, leaves]

/-- The columns of a list of predicates, from left to right. -/
theorem columns_node (name : String) (connective : Connective) (ps : List Predicate) :
    (node name connective ps).columns = ps.flatMap columns := by
  rw [columns, leaves]
  induction ps with
  | nil => rfl
  | cons p ps ih => rw [leavesOf, List.flatMap_append, ih, List.flatMap_cons, columns]

mutual
/-- A predicate under two renamings has one answer, or none both times. -/
theorem evaluate_mapColumns : (p : Predicate) → SameUnder f g row other p.columns →
    ((p.mapColumns f).evaluate row).toOption = ((p.mapColumns g).evaluate other).toOption
  | .leaf c, h => by
    rw [columns_leaf] at h
    simpa only [mapColumns, evaluate] using Comparison.evaluate_mapColumns h
  | .node _ connective ps, h => by
    rw [columns_node] at h
    rw [mapColumns, mapColumns, evaluate_node, evaluate_node]
    exact evaluateUnder_mapColumns connective ps h

theorem evaluateUnder_mapColumns (connective : Connective) : (ps : List Predicate) →
    SameUnder f g row other (ps.flatMap columns) →
    (evaluateUnder connective (mapColumnsOf f ps) row).toOption =
      (evaluateUnder connective (mapColumnsOf g ps) other).toOption
  | [], _ => by rw [mapColumnsOf, mapColumnsOf, evaluateUnder_nil, evaluateUnder_nil]
  | p :: ps, h => by
    rw [List.flatMap_cons] at h
    have hpart := evaluate_mapColumns p (h.mono (List.subset_append_left _ _))
    have hrest := evaluateUnder_mapColumns connective ps (h.mono (List.subset_append_right _ _))
    rw [mapColumnsOf, mapColumnsOf, evaluateUnder_cons, evaluateUnder_cons]
    exact connective.toOption_join_congr hpart hrest
end

theorem accepts_mapColumns {p : Predicate} (h : SameUnder f g row other p.columns) :
    (p.mapColumns f).accepts row = (p.mapColumns g).accepts other := by
  rw [accepts_eq_getD, accepts_eq_getD, evaluate_mapColumns p h]

/-! ## Renaming and splitting -/

theorem mapColumnsOf_eq_map (f : Column → Option Column) (ps : List Predicate) :
    mapColumnsOf f ps = ps.map (mapColumns f) := by
  induction ps with
  | nil => rfl
  | cons p ps ih => rw [mapColumnsOf, ih, List.map_cons]

mutual
/-- The columns of a predicate under new names are its columns under new names. -/
theorem columns_mapColumns (f : Column → Option Column) : (p : Predicate) →
    (p.mapColumns f).columns = p.columns.map (renamed f)
  | .leaf c => by rw [mapColumns, columns_leaf, columns_leaf, Comparison.columns_mapColumns]
  | .node name connective ps => by
    rw [mapColumns, columns_node, columns_node, columnsOf_mapColumnsOf f ps]

theorem columnsOf_mapColumnsOf (f : Column → Option Column) : (ps : List Predicate) →
    (mapColumnsOf f ps).flatMap columns = (ps.flatMap columns).map (renamed f)
  | [] => rfl
  | p :: ps => by
    rw [mapColumnsOf, List.flatMap_cons, List.flatMap_cons, columns_mapColumns f p,
      columnsOf_mapColumnsOf f ps, List.map_append]
end

mutual
theorem conjuncts_mapColumns (f : Column → Option Column) : (p : Predicate) →
    (p.mapColumns f).conjuncts = p.conjuncts.map (mapColumns f)
  | .leaf _ => by simp [mapColumns]
  | .node _ .and ps => by
    rw [mapColumns, conjuncts_and, conjuncts_and, conjunctsOf_mapColumnsOf f ps]
  | .node _ .or _ => by simp [mapColumns]

theorem conjunctsOf_mapColumnsOf (f : Column → Option Column) : (ps : List Predicate) →
    conjunctsOf (mapColumnsOf f ps) = (conjunctsOf ps).map (mapColumns f)
  | [] => rfl
  | p :: ps => by
    rw [mapColumnsOf, conjunctsOf, conjunctsOf, conjuncts_mapColumns f p,
      conjunctsOf_mapColumnsOf f ps, List.map_append]
end

theorem map_andAll (f : Column → Option Column) (ps : List Predicate) :
    (andAll ps).map (mapColumns f) = andAll (ps.map (mapColumns f)) := by
  match ps with
  | [] => rfl
  | [p] => rfl
  | p :: q :: ps =>
    show some (mapColumns f (node "" .and (p :: q :: ps))) = some (node "" .and _)
    rw [mapColumns, mapColumnsOf_eq_map]
    rfl

/-! ## Names of another row -/

mutual
/-- A renaming that knows no column changes nothing. -/
theorem mapColumns_none : (p : Predicate) → p.mapColumns (fun _ => none) = p
  | .leaf ⟨_, left, _, right⟩ => by cases left <;> cases right <;> rfl
  | .node _ _ ps => by rw [mapColumns, mapColumnsOf_none ps]

theorem mapColumnsOf_none : (ps : List Predicate) → mapColumnsOf (fun _ => none) ps = ps
  | [] => rfl
  | p :: ps => by rw [mapColumnsOf, mapColumns_none p, mapColumnsOf_none ps]
end

/-- A renamed predicate answers on a row what the predicate answers on a row that has under each of
its columns what the first one has under the new name. Both have one answer, or neither has any. -/
theorem evaluate_mapColumns_of_valueAt {p : Predicate} {f : Column → Option Column} {row other : Row}
    (h : ∀ c ∈ p.columns, other.valueAt c.text = row.valueAt ((f c).getD c).text) :
    ((p.mapColumns f).evaluate row).toOption = (p.evaluate other).toOption := by
  have hsame : SameUnder f (fun _ => none) row other p.columns := fun c hc => (h c hc).symm
  have hrenamed := evaluate_mapColumns p hsame
  rwa [mapColumns_none] at hrenamed

/-! ### A joined order -/

/-- The columns of the orders under their own names. -/
def withoutOrders (c : Column) : Option Column :=
  if c.qualifier = some "o" then some (.bare c.name) else none

/-- An order without a coupon. -/
def plainOrder : Row :=
  Dict.ofList [("region", .string "north"), ("total", .int 120)]

def joinedOrder : Row :=
  Dict.ofList [("o.coupon", .null), ("o.total", .int 120), ("region", .string "north")]

/-- Orders of 100 or 120 that have a coupon other than 1 or are from the north. The last comparison is
between values of two types. -/
def northernOrders : Predicate :=
  and [
    .compare (.column ⟨some "o", "total"⟩) .isIn
      (.literal (.list "(100, 120)" [.scalar "100" (.int 100), .scalar "120" (.int 120)])),
    or [
      .compare (.column ⟨some "o", "coupon"⟩) .notEq (.literal (.scalar "1" (.int 1))),
      .compare (.literal (.scalar "'north'" (.text "north"))) .eq (.column (.bare "region")),
      .compare (.column ⟨some "o", "total"⟩) .gt (.column (.bare "region"))]]

theorem evaluate_mapColumns_of_valueAt_joinedOrder :
    (∀ c ∈ northernOrders.columns,
        joinedOrder.valueAt c.text = plainOrder.valueAt ((withoutOrders c).getD c).text) ∧
      plainOrder.get? "coupon" = none ∧
      ((northernOrders.mapColumns withoutOrders).evaluate plainOrder).toOption =
        (northernOrders.evaluate joinedOrder).toOption ∧
      (northernOrders.evaluate joinedOrder).toOption = some true := by
  have hvalues : ∀ c ∈ northernOrders.columns,
      joinedOrder.valueAt c.text = plainOrder.valueAt ((withoutOrders c).getD c).text := by
    have hcolumns : northernOrders.columns = [⟨some "o", "total"⟩, ⟨some "o", "coupon"⟩,
        .bare "region", ⟨some "o", "total"⟩, .bare "region"] := rfl
    rw [hcolumns]
    simp [joinedOrder, plainOrder, withoutOrders, Row.valueAt, Dict.ofList, Dict.get?_insert,
      Column.text, Column.bare]
  exact ⟨hvalues, rfl, evaluate_mapColumns_of_valueAt hvalues, by decide +kernel⟩

end Predicate

end JoinPlan
