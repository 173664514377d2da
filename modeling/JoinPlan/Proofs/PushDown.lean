import JoinPlan.Proofs.Join.Parts
import JoinPlan.Proofs.Statement.Streams

/-!
# Filters before a join let the same rows through

Push-down does not change whether a query over streams has a plan. Under a left join it never
changes which rows get through. Under an inner join it does where the right side takes a part of the
filter that means something else there.
-/

namespace JoinPlan

open Predicate

namespace GroupedQuery

variable {catalog : Catalog} {leftColumns rightColumns : List String} {q : GroupedQuery}
  {settings : Settings} {plan : Plan} {j : Join} {row : Row}

/-- What a query is compiled to, with or without push-down. -/
def compileWith (q : GroupedQuery) (catalog : Catalog) (settings : Settings) (pushDown : Bool) :
    Except PlanError Plan :=
  (Statement.grouped q).compile catalog { settings with pushDown := pushDown } .root

/-- The filter before the join lets the rows through that its parts let through. -/
theorem passes_parts (q : GroupedQuery) (j : Join) (row : Row) :
    Passes (q.before.toList.map j.localize) row ↔ Passes (q.parts.map j.localize) row := by
  have hsplit : q.parts.map j.localize = conjunctsOf (q.before.toList.map j.localize) := by
    have hmap : j.localize = mapColumns fun c => j.resolve c.text := rfl
    rw [hmap, ← mapColumnsOf_eq_map _ q.before.toList, conjunctsOf_mapColumnsOf, parts]
  rw [hsplit, passes_conjunctsOf]

theorem sideFilters_of_compile_off (h : q.join.OverStreams catalog leftColumns rightColumns)
    (hplan : q.compileWith catalog settings false = .ok plan) (side : Side) :
    plan.sideFilters side = [] :=
  (filters_of_compile h hplan).1 side

/-- Without push-down the filter behind the join tests every part. -/
theorem passes_of_compile_off (h : q.join.OverStreams catalog leftColumns rightColumns)
    (hj : q.join.join catalog = .ok j)
    (hplan : q.compileWith catalog settings false = .ok plan) :
    Passes plan.rootFilters row ↔
      Passes (q.parts.map j.localize) row ∧ Passes (q.after.toList.map j.localize) row := by
  cases h.join_eq.symm.trans hj
  have hroot := (filters_of_compile h hplan).2
  rw [hroot, passes_andAll, restParts, List.map_append, Passes.append_iff, ← passes_parts]
  rfl

theorem sideFilters_of_compile_on (h : q.join.OverStreams catalog leftColumns rightColumns)
    (hj : q.join.join catalog = .ok j)
    (hplan : q.compileWith catalog settings true = .ok plan) (side : Side) :
    plan.sideFilters side = (andAll (j.takenBy side q.parts)).toList := by
  cases h.join_eq.symm.trans hj
  exact (filters_of_compile h hplan).1 side

/-- With push-down the filter behind the join tests the parts that no side takes. -/
theorem passes_of_compile_on (h : q.join.OverStreams catalog leftColumns rightColumns)
    (hj : q.join.join catalog = .ok j)
    (hplan : q.compileWith catalog settings true = .ok plan) :
    Passes plan.rootFilters row ↔
      Passes ((j.leftOver q.parts).map j.localize) row ∧
        Passes (q.after.toList.map j.localize) row := by
  cases h.join_eq.symm.trans hj
  have hroot := (filters_of_compile h hplan).2
  rw [hroot, passes_andAll, restParts, List.map_append, Passes.append_iff]
  rfl

/-- Whether a query has a plan does not depend on push-down. -/
theorem compiles_on_iff_off (settings : Settings)
    (h : q.join.OverStreams catalog leftColumns rightColumns) :
    (∃ plan, q.compileWith catalog settings true = .ok plan) ↔
      ∃ plan, q.compileWith catalog settings false = .ok plan := by
  simp only [compileWith]
  rw [compiles_iff h, compiles_iff h]
  rfl

/-! ## A catalog -/

/-- Orders and their payments, which both have an id. -/
def ledger : Catalog :=
  Dict.ofList [("orders", ⟨.stream, ["id"]⟩), ("payments", ⟨.stream, ["id", "order_id"]⟩)]

/-- Orders and their payments under a filter before the join. -/
def paidOrders (kind : JoinKind) (before : Predicate) : GroupedQuery where
  join :=
    { content := ""
      source := ⟨"orders", none⟩
      joined := ⟨"payments", some "p"⟩
      kind := kind
      on := some ⟨"orders.id = p.order_id",
        .compare (.column ⟨some "orders", "id"⟩) .eq (.column ⟨some "p", "order_id"⟩)⟩
      items := [] }
  before := some before
  after := none
  keys := []

theorem overStreams_paidOrders (kind : JoinKind) (before : Predicate) :
    (paidOrders kind before).join.OverStreams ledger ["id"] ["id", "order_id"] :=
  ⟨rfl, rfl⟩

theorem compiles_paidOrders (kind : JoinKind) (before : Predicate) (pushDown : Bool) :
    ∃ plan, (paidOrders kind before).compileWith ledger .default pushDown = .ok plan :=
  (compiles_iff (overStreams_paidOrders kind before)).mpr
    ⟨Settings.validate_default, rfl, _, _, rfl, rfl⟩

/-- Each comparison reads one side. -/
def paidById : Predicate :=
  .and [.compare (.column (.bare "id")) .eq (.literal (.scalar "1" (.int 1))),
    .compare (.column ⟨some "p", "id"⟩) .eq (.literal (.scalar "2" (.int 2)))]

/-- The first column is one of the orders, which the payments know as well. -/
def samePaymentId : Predicate :=
  .compare (.column (.bare "id")) .eq (.column ⟨some "p", "id"⟩)

/-! ## Left joins -/

/-- Under a left join push-down changes neither whether there is a plan nor which rows get through,
and it never filters the right side. The joined row may lack a right part. -/
theorem pushDown_leftJoin (settings : Settings)
    (h : q.join.OverStreams catalog leftColumns rightColumns) (hkind : q.join.kind = .left)
    (hdot : DotFree leftColumns) :
    ((∃ plan, q.compileWith catalog settings true = .ok plan) ↔
      ∃ plan, q.compileWith catalog settings false = .ok plan) ∧
    ∀ on off,
      q.compileWith catalog settings true = .ok on →
      q.compileWith catalog settings false = .ok off →
      on.sideFilters .right = [] ∧ off.sideFilters .right = [] ∧
        ∀ left joined : Row, (∀ c ∈ leftColumns, joined.valueAt c = left.valueAt c) →
          (Passes (on.sideFilters .left) left ∧ Passes on.rootFilters joined ↔
            Passes off.rootFilters joined) := by
  refine ⟨compiles_on_iff_off settings h, fun on off hon hoff => ?_⟩
  have hright : (q.join.ofStreams leftColumns rightColumns).taken .right q.parts = [] :=
    Join.taken_right_of_leftJoin hkind q.parts
  refine ⟨?_, sideFilters_of_compile_off h hoff .right, ?_⟩
  · rw [sideFilters_of_compile_on h h.join_eq hon, Join.takenBy, hright]
    rfl
  intro left joined hrow
  rw [sideFilters_of_compile_on h h.join_eq hon, passes_andAll,
    Join.passes_takenBy_left rfl hdot hrow, passes_of_compile_on h h.join_eq hon,
    passes_of_compile_off h h.join_eq hoff,
    Join.passes_map_iff (q.join.ofStreams leftColumns rightColumns) _ q.parts, hright,
    List.map_nil, and_iff_right Passes.nil, and_assoc]

theorem pushDown_leftJoin_paidOrders :
    ∃ on off,
      (paidOrders .left paidById).compileWith ledger .default true = .ok on ∧
      (paidOrders .left paidById).compileWith ledger .default false = .ok off ∧
      ∀ left joined : Row, (∀ c ∈ ["id"], joined.valueAt c = left.valueAt c) →
        (Passes (on.sideFilters .left) left ∧ Passes on.rootFilters joined ↔
          Passes off.rootFilters joined) := by
  obtain ⟨on, hon⟩ := compiles_paidOrders .left paidById true
  have hlaw := pushDown_leftJoin Settings.default
    (overStreams_paidOrders .left paidById) rfl (by decide +kernel)
  obtain ⟨off, hoff⟩ := hlaw.1.mp ⟨on, hon⟩
  exact ⟨on, off, hon, hoff, (hlaw.2 on off hon hoff).2.2⟩

/-! ## Inner joins -/

/-- With push-down the misplaced parts are asked on the right row, and all others as well as the
filter after the join on the joined row. -/
theorem passes_on_iff {qualifier : String} {left right joined : Row}
    (h : q.join.OverStreams catalog leftColumns rightColumns) (hj : q.join.join catalog = .ok j)
    (hdot : DotFree leftColumns) (hdot' : DotFree rightColumns)
    (has : q.join.joined.asName = some qualifier) (hne : qualifier ≠ "")
    (hrow : JoinedRow leftColumns rightColumns qualifier left right joined)
    (hplan : q.compileWith catalog settings true = .ok plan) :
    Passes (plan.sideFilters .left) left ∧ Passes (plan.sideFilters .right) right ∧
        Passes plan.rootFilters joined ↔
      Passes ((j.misplaced q.parts).map j.right.scope.localize) right ∧
        Passes ((j.wellPlaced q.parts ++ q.after.toList).map j.localize) joined := by
  have hroot : Passes plan.rootFilters joined ↔ _ := passes_of_compile_on h hj hplan
  have hside := sideFilters_of_compile_on h hj hplan
  cases h.join_eq.symm.trans hj
  have hjoinedAs : (q.join.joined.table rightColumns).asName = some qualifier := by
    simp [TableRef.table, has, hne]
  have hsides := (q.join.ofStreams leftColumns rightColumns).passes_sides_iff q.parts rfl rfl hdot
    hdot' hjoinedAs hne hrow
  rw [hside, hside, passes_andAll, passes_andAll, hroot, List.map_append, Passes.append_iff,
    ← and_assoc (a := Passes (List.map _ (Join.misplaced ..)) right), ← hsides, and_assoc,
    and_assoc]

/-- Without push-down all parts are asked on the joined row. -/
theorem passes_off_iff {joined : Row}
    (h : q.join.OverStreams catalog leftColumns rightColumns) (hj : q.join.join catalog = .ok j)
    (hplan : q.compileWith catalog settings false = .ok plan) :
    Passes plan.rootFilters joined ↔
      Passes ((j.misplaced q.parts).map j.localize) joined ∧
        Passes ((j.wellPlaced q.parts ++ q.after.toList).map j.localize) joined := by
  rw [passes_of_compile_off h hj hplan, j.passes_placed_iff _ q.parts, and_assoc,
    List.map_append, Passes.append_iff]

/-- Under an inner join, and under any join whose right side has an alias, push-down does not change
whether there is a plan. It lets the same rows through exactly when the misplaced parts of the
filter say on the right row what they say on the joined row, or some other part of the filters
refuses the joined row. So it does when no part is misplaced. -/
theorem pushDown_innerJoin (settings : Settings) {qualifier : String}
    (h : q.join.OverStreams catalog leftColumns rightColumns)
    (hdot : DotFree leftColumns) (hdot' : DotFree rightColumns)
    (has : q.join.joined.asName = some qualifier) (hne : qualifier ≠ "") :
    ((∃ plan, q.compileWith catalog settings true = .ok plan) ↔
      ∃ plan, q.compileWith catalog settings false = .ok plan) ∧
    ∀ on off j,
      q.compileWith catalog settings true = .ok on →
      q.compileWith catalog settings false = .ok off →
      q.join.join catalog = .ok j →
      ∀ left right joined, JoinedRow leftColumns rightColumns qualifier left right joined →
        (j.misplaced q.parts = [] →
          (Passes (on.sideFilters .left) left ∧ Passes (on.sideFilters .right) right ∧
              Passes on.rootFilters joined ↔
            Passes off.rootFilters joined)) ∧
        ((Passes (on.sideFilters .left) left ∧ Passes (on.sideFilters .right) right ∧
              Passes on.rootFilters joined ↔
            Passes off.rootFilters joined) ↔
          (Passes ((j.wellPlaced q.parts ++ q.after.toList).map j.localize) joined →
            (Passes ((j.misplaced q.parts).map j.right.scope.localize) right ↔
              Passes ((j.misplaced q.parts).map j.localize) joined))) := by
  refine ⟨compiles_on_iff_off settings h, fun on off j hon hoff hj left right joined hrow => ?_⟩
  rw [passes_on_iff h hj hdot hdot' has hne hrow hon, passes_off_iff h hj hoff]
  constructor
  · intro hnone
    rw [hnone]
    exact and_congr_left' (iff_of_true Passes.nil Passes.nil)
  · exact and_congr_left_iff

theorem pushDown_innerJoin_paidOrders :
    ∃ on off,
      (paidOrders .inner paidById).compileWith ledger .default true = .ok on ∧
      (paidOrders .inner paidById).compileWith ledger .default false = .ok off ∧
      ∀ left right joined, JoinedRow ["id"] ["id", "order_id"] "p" left right joined →
        (Passes (on.sideFilters .left) left ∧ Passes (on.sideFilters .right) right ∧
            Passes on.rootFilters joined ↔
          Passes off.rootFilters joined) := by
  have hover := overStreams_paidOrders .inner paidById
  obtain ⟨on, hon⟩ := compiles_paidOrders .inner paidById true
  have has : (paidOrders .inner paidById).join.joined.asName = some "p" := rfl
  have hlaw := pushDown_innerJoin Settings.default hover (by decide +kernel) (by decide +kernel) has
    (by decide)
  obtain ⟨off, hoff⟩ := hlaw.1.mp ⟨on, hon⟩
  refine ⟨on, off, hon, hoff, fun left right joined hrow => ?_⟩
  exact (hlaw.2 on off _ hon hoff hover.join_eq left right joined hrow).1 (by decide +kernel)

/-- An order, a payment of it that has another id, and the two joined. -/
def orderRow : Row := Dict.ofList [("id", .int 1)]

@[inherit_doc orderRow]
def paymentRow : Row := Dict.ofList [("id", .int 2), ("order_id", .int 1)]

@[inherit_doc orderRow]
def paidRow : Row := Dict.ofList [("id", .int 1), ("p.id", .int 2), ("p.order_id", .int 1)]

/-- The filter for payments with the id of their order lets others through when it runs before the
join, where it compares the id of a payment with itself. -/
theorem pushDown_innerJoin_samePaymentId :
    JoinedRow ["id"] ["id", "order_id"] "p" orderRow paymentRow paidRow ∧
      ∃ on off,
        (paidOrders .inner samePaymentId).compileWith ledger .default true = .ok on ∧
        (paidOrders .inner samePaymentId).compileWith ledger .default false = .ok off ∧
        (Passes (on.sideFilters .left) orderRow ∧ Passes (on.sideFilters .right) paymentRow ∧
          Passes on.rootFilters paidRow) ∧ ¬Passes off.rootFilters paidRow := by
  obtain ⟨on, hon, haccepted⟩ := Outcome.toOption_map_eq_some.mp (show ((paidOrders .inner
    samePaymentId).compileWith ledger .default true).toOption.map (fun on =>
      decide (Passes (on.sideFilters .left) orderRow ∧ Passes (on.sideFilters .right) paymentRow ∧
        Passes on.rootFilters paidRow)) = some true by decide +kernel)
  obtain ⟨off, hoff, hrefused⟩ := Outcome.toOption_map_eq_some.mp (show ((paidOrders .inner
    samePaymentId).compileWith ledger .default false).toOption.map (fun off =>
      decide (Passes off.rootFilters paidRow)) = some false by decide +kernel)
  refine ⟨⟨List.forall_mem_singleton.mpr rfl, ?_⟩, on, off, hon, hoff,
    of_decide_eq_true haccepted, of_decide_eq_false hrefused⟩
  exact List.forall_mem_cons.mpr ⟨rfl, List.forall_mem_singleton.mpr rfl⟩

end GroupedQuery

end JoinPlan
