import JoinPlan.Proofs.Branch
import JoinPlan.Proofs.Build.Joining
import JoinPlan.Proofs.Predicate.Normal
import JoinPlan.Proofs.Statement.Having
import JoinPlan.Proofs.Statement.Meaning

/-!
# Where the items of a select list are calculated

The plan of an SQL text has the stages of its join and, behind them, one stage for what is left of
WHERE, one for the aggregates and functions of the select list, and one for HAVING. Each of the three
is there just when the text has something for it.
-/

namespace JoinPlan

open Build

/-! ## Clauses that are read -/

/-- A statement with these clauses is only a join where there is neither a filter nor a group. With
HAVING it keeps some of its groups. -/
inductive Statement.HasClauses (q : GroupedQuery) : Option Predicate → Statement → Prop
  | join (hbefore : q.before = none) (hkeys : q.keys = []) (haggregates : q.join.aggregates = []) :
      HasClauses q none (.join q.join)
  | grouped : HasClauses q none (.grouped q)
  | having {kept : HavingQuery} (hgrouped : kept.grouped = q) :
      HasClauses q (some kept.having) (.having kept)

theorem Statement.HasClauses.query_eq {st : Statement} {q : GroupedQuery}
    {having : Option Predicate} (h : st.HasClauses q having) : st.query = q.join := by
  cases h with
  | join | grouped => rfl
  | having hgrouped => exact congrArg (·.join) hgrouped

/-- A condition has a comparison in every part. -/
theorem Sql.Expr.Demands.filled {D : Sql.Dialect} {items : List SelectItem} {e : Sql.Expr}
    {p : Predicate} (h : e.Demands D items p) : p.Filled := by
  induction h with
  | nested _ ih => exact ih
  | and _ _ ihl ihr | or _ _ ihl ihr =>
    exact .node (List.cons_ne_nil _ _)
      (List.forall_mem_cons.mpr ⟨ihl, List.forall_mem_singleton.mpr ihr⟩)
  | compare | inList => exact .leaf _

namespace Reader

variable {D : Sql.Dialect} {content : String} {s : Sql.Select}

theorem content_of_joinQuery {q : JoinQuery} (h : joinQuery D content s = .ok q) :
    q.content = content := by
  unfold joinQuery at h
  split at h
  · split at h
    · simp only [Outcome.bind_eq_ok, Outcome.pure_eq_ok] at h
      obtain ⟨_, -, _, -, _, -, _, -, rfl⟩ := h
      rfl
    · cases h
  · cases h

/-- The statement of a select has the clauses that the select is read as. -/
theorem hasClauses_of_select {st : Statement} (h : select D content s = .ok st) :
    ∃ keys before having, st.query.content = content ∧
      s.Reads D st.query.items keys before having ∧
      st.HasClauses ⟨st.query, before, none, keys⟩ having := by
  simp only [select, Outcome.bind_eq_ok] at h
  obtain ⟨join, hjoin, items, hitems, keys, hkeys, before, hbefore, having, hhaving, h⟩ := h
  have hcontent : join.content = content := content_of_joinQuery hjoin
  have hclauses : st.HasClauses ⟨{ join with items }, before, none, keys⟩ having := by
    cases having with
    | some having =>
      obtain ⟨kept, hkept, h⟩ := Outcome.bind_eq_ok.mp h
      cases Outcome.pure_eq_ok.mp h
      obtain ⟨-, hgrouped, rfl⟩ :=
        GroupedQuery.withHaving_eq_ok.mp (Outcome.mapError_eq_ok.mp hkept)
      exact .having hgrouped
    | none =>
      dsimp only at h
      split at h
      · rename_i hplain
        cases Outcome.pure_eq_ok.mp h
        simp only [Bool.and_eq_true, Option.isNone_iff_eq_none, List.isEmpty_iff] at hplain
        obtain ⟨⟨hnone, hempty⟩, haggregates⟩ := hplain
        exact .join hnone hempty haggregates
      · cases Outcome.pure_eq_ok.mp h
        exact .grouped
  have hlisted := Outcome.mapM_eq_ok.mp hitems
  simp only [selectItem_eq_ok_iff] at hlisted
  refine ⟨keys, before, having, ?_⟩
  rw [hclauses.query_eq]
  exact ⟨hcontent, ⟨hlisted, groupKeys_eq_ok_iff.mp hkeys, rel_of_mapM hbefore,
    rel_of_mapM hhaving⟩, hclauses⟩

end Reader

/-- An accepted text is one query, and the statement has its clauses. -/
theorem Statement.hasClauses_of_read {D : Sql.Dialect} {sql : String} {st : Statement}
    (h : readIn D sql = .ok st) :
    ∃ query s keys before having, D.statements sql = .ok [.query query] ∧
      query.body = .select s ∧ st.query.content = Text.trim sql ∧
      s.Reads D st.query.items keys before having ∧
      st.HasClauses ⟨st.query, before, none, keys⟩ having := by
  unfold readIn at h
  split at h
  · rename_i statement hparse
    cases statement with
    | other => cases h
    | query query =>
      unfold Reader.statement at h
      split at h
      · cases h
      · rename_i heq
        cases heq
        split at h
        · rename_i s hbody
          obtain ⟨keys, before, having, hselect⟩ := Reader.hasClauses_of_select h
          exact ⟨query, s, keys, before, having, hparse, hbody, hselect⟩
        · cases h
  · cases h
  · cases h

/-! ## Filters behind the join -/

namespace GroupedQuery

variable {q : GroupedQuery} {settings : Settings} {j : Join}

/-- There is a filter behind the join just when some part of WHERE is not put on a side. -/
theorem isSome_filter_iff (hafter : q.after = none) (hfilled : ∀ p, q.before = some p → p.Filled) :
    (Predicate.andAll ((q.restParts settings j).map j.localize)).isSome = true ↔
      ∃ p, q.before = some p ∧
        ∃ part ∈ p.conjuncts, settings.pushDown = true → j.taker part = none := by
  rw [Predicate.isSome_andAll, ne_eq, List.map_eq_nil_iff, restParts, hafter, parts]
  cases hbefore : q.before with
  | none => cases settings.pushDown <;> simp [Predicate.conjunctsOf, Join.leftOver]
  | some p =>
    cases settings.pushDown with
    | true => simp [Predicate.conjunctsOf, Join.leftOver]
    | false =>
      obtain ⟨part, hpart⟩ := List.exists_mem_of_ne_nil _ (hfilled p hbefore).conjuncts_ne_nil
      exact iff_of_true (by simp) ⟨p, rfl, part, hpart, fun hpush => absurd hpush Bool.false_ne_true⟩

end GroupedQuery

/-! ## Stages behind the join -/

/-- The stages behind a join: what is left of WHERE, the groups or else the functions alone, and
HAVING. -/
def clauseStages (content : String) (keys : List Column) (aggregates : List (Aggregate × String))
    (calls : List FunctionCall) (filter having : Option Predicate)
    (whereLabel groupLabel havingLabel : String) : List Stage :=
  (filter.map (.filter ⟨whereLabel, ·⟩)).toList ++
    (if keys ≠ [] ∨ aggregates ≠ [] then [.group groupLabel keys aggregates calls]
      else if calls ≠ [] then [.enrich groupLabel calls] else []) ++
    (having.map (.having havingLabel content ·)).toList

namespace Statement

variable {st : Statement} {q : GroupedQuery} {having filter : Option Predicate} {settings : Settings}
  {j placed : Join}

/-- Without a filter a grouped query places nothing, as a join does. -/
theorem HasClauses.placeFilters_eq (h : st.HasClauses q having) (hafter : q.after = none)
    (hplaced : st.placedJoin settings j = .ok (placed, filter)) :
    q.placeFilters settings j = (placed, filter) := by
  cases h with
  | join hbefore =>
    cases hplaced
    rw [GroupedQuery.placeFilters, GroupedQuery.pushBefore, hbefore, hafter]
    rfl
  | grouped => exact (GroupedQuery.placedJoin_eq_ok.mp hplaced).2
  | having hgrouped =>
    subst hgrouped
    exact (GroupedQuery.placedJoin_eq_ok.mp hplaced).2

/-- The items of a query and its groups come to one stage at most. -/
theorem clauseStages_eq (q : GroupedQuery) (filter having : Option Predicate)
    (whereLabel groupLabel havingLabel : String) :
    clauseStages q.join.content q.keys q.join.aggregates q.join.calls filter having whereLabel
        groupLabel havingLabel =
      (filter.map (.filter ⟨whereLabel, ·⟩)).toList ++ (q.groupStage? groupLabel).toList ++
        (having.map (.having havingLabel q.join.content ·)).toList := by
  unfold clauseStages GroupedQuery.groupStage?
  by_cases hkeys : q.keys = [] <;>
    by_cases haggregates : q.join.aggregates = [] <;>
    by_cases hcalls : q.join.calls = [] <;>
    simp [hkeys, haggregates, hcalls]

theorem HasClauses.stagesBehind_eq (h : st.HasClauses q having)
    (hplaced : st.placedJoin settings j = .ok (placed, filter))
    (whereLabel groupLabel havingLabel : String) :
    st.stagesBehind filter whereLabel groupLabel havingLabel =
      clauseStages q.join.content q.keys q.join.aggregates q.join.calls filter having whereLabel
        groupLabel havingLabel := by
  rw [clauseStages_eq]
  cases h with
  | join hbefore hkeys haggregates =>
    cases hplaced
    rw [GroupedQuery.groupStage?, hkeys, haggregates]
    exact (List.append_nil _).symm
  | grouped => exact (List.append_nil _).symm
  | having hgrouped => exact hgrouped ▸ rfl

/-- The plan of a text has the stages of its join, which ends in the stage that joins, and behind them
in this order: a filter when WHERE has a part that no side takes; one stage with the columns of GROUP
BY, all aggregates and all functions of the select list when there are such columns or aggregates, or
else one with the functions when there are any; and a filter on groups when there is HAVING. Nothing
else calculates, at any depth. -/
theorem stages_of_read {D : Sql.Dialect} {sql : String} {st : Statement} {catalog : Catalog}
    {settings : Settings} {plan : Plan} (hread : readIn D sql = .ok st)
    (hplan : st.compile catalog settings .root = .ok plan) :
    ∃ query s keys before having aggregates calls j,
      D.statements sql = .ok [.query query] ∧ query.body = .select s ∧
      s.Reads D st.query.items keys before having ∧ Collects st.query.items aggregates calls ∧
      st.query.join catalog = .ok j ∧
      ∃ q filter, q = GroupedQuery.mk st.query before none keys ∧
        filter = Predicate.andAll ((q.restParts settings j).map j.localize) ∧
        (filter.isSome = true ↔ ∃ p, before = some p ∧
          ∃ part ∈ p.conjuncts, settings.pushDown = true → j.taker part = none) ∧
        ∃ site, (j.withFilters (q.sideParts settings j .left) (q.sideParts settings j .right)).build
            .root (Build.start settings.space settings.root) = .ok () site ∧
          (∃ front joining, site.fragment.stages = front ++ [joining] ∧ joining.joinsRows = true) ∧
          Uncalculated site.fragment.stages ∧
          ∃ whereLabel groupLabel havingLabel,
            plan.root.stages = site.fragment.stages ++ clauseStages (Text.trim sql) keys aggregates
              calls filter having whereLabel groupLabel havingLabel := by
  obtain ⟨query, s, keys, before, having, hparse, hbody, hcontent, hreads, hclauses⟩ :=
    hasClauses_of_read hread
  obtain ⟨-, j, hj, placed, filter, hplaced, root, hroot, rfl⟩ := compile_eq_ok.mp hplan
  obtain ⟨site, hbuild, hbehind⟩ := seq_eq_ok.mp hroot
  obtain ⟨hleft, -⟩ := tables_of_placedJoin hj hplaced
  obtain ⟨hjoining, hbreak⟩ := Join.of_build_root hleft hbuild
  have huncalculated := (Source.builds_of_build hbuild).uncalculated .nil
  rw [unlessBreak_of_not_break hbreak] at hbehind
  obtain ⟨whereLabel, groupLabel, havingLabel, root', hroot', hstages⟩ :=
    st.buildBehind_succeeds filter site
  cases hbehind.symm.trans hroot'
  rw [hclauses.stagesBehind_eq hplaced, hcontent] at hstages
  -- A statement that is only a join has nothing to place, so all kinds of statements go together.
  have hplacement := hclauses.placeFilters_eq rfl hplaced
  rw [GroupedQuery.placeFilters_eq] at hplacement
  cases hplacement
  have hfilled : ∀ p, before = some p → p.Filled := by
    rintro p rfl
    have hfiltered := hreads.filtered
    generalize s.selection = selection at hfiltered
    cases hfiltered with
    | some hp => exact hp.filled
  exact ⟨query, s, keys, before, having, _, _, j, hparse, hbody, hreads, st.query.collects, hj, _, _,
    rfl, rfl, GroupedQuery.isSome_filter_iff rfl hfilled, site, hbuild, hjoining, huncalculated,
    whereLabel, groupLabel, havingLabel, hstages⟩

/-- The orders that were paid more than once, with a WHERE that reads both sides. -/
def repeatedPayments : String :=
  "SELECT COUNT(p.id) AS n, UPPER(p.id) AS u FROM orders JOIN payments AS p " ++
    "ON orders.id = p.order_id WHERE orders.id < p.id GROUP BY orders.id HAVING n > 1"

def repeatedItems : List SelectItem :=
  [⟨.bare "n", some (.aggregate ⟨.count, .qualified "p" "id"⟩)⟩,
    ⟨.bare "u", some (.function "upper" ["p.id"])⟩]

/-- The function is run where the rows are grouped. -/
theorem stages_of_read_repeatedPayments :
    ∃ st plan, read repeatedPayments = .ok st ∧
      st.compile GroupedQuery.ledger .default .root = .ok plan ∧
      plan.root.stages.map Stage.kindName = ["Join", "Filter", "GroupBy", "Having"] ∧
      ∃ query s keys before having front filter whereLabel groupLabel havingLabel,
        Sql.Dialect.generic.statements repeatedPayments = .ok [.query query] ∧
        query.body = .select s ∧ s.Reads .generic repeatedItems keys before having ∧
        Uncalculated front ∧ plan.root.stages = front ++ clauseStages (Text.trim repeatedPayments)
          keys [(⟨.count, .qualified "p" "id"⟩, "n")] [⟨"upper", ["p.id"], "u"⟩] filter having
          whereLabel groupLabel havingLabel := by
  obtain ⟨st, hst, hcompiled⟩ := Option.bind_eq_some_iff.mp
    (show (read repeatedPayments).toOption.bind (fun st =>
        (st.compile GroupedQuery.ledger .default .root).toOption.map fun plan =>
          (st.query.items, plan.root.stages.map Stage.kindName)) =
      some (repeatedItems, ["Join", "Filter", "GroupBy", "Having"]) by decide +kernel)
  have hread := Outcome.toOption_eq_some.mp hst
  obtain ⟨plan, hplan, heq⟩ := Outcome.toOption_map_eq_some.mp hcompiled
  obtain ⟨hitems, hkinds⟩ := Prod.mk.inj heq
  obtain ⟨query, s, keys, before, having, aggregates, calls, -, hparse, hbody, hreads, hcollects, -,
    -, filter, -, -, -, site, -, -, huncalculated, whereLabel, groupLabel, havingLabel, hstages⟩ :=
    stages_of_read hread hplan
  rw [hitems] at hreads hcollects
  obtain ⟨rfl, rfl⟩ : aggregates = [(⟨.count, .qualified "p" "id"⟩, "n")] ∧
      calls = [⟨"upper", ["p.id"], "u"⟩] := by
    obtain _ | _ | ⟨_ | _ | _ | ⟨⟨⟩⟩⟩ := hcollects
    exact ⟨rfl, rfl⟩
  exact ⟨st, plan, hread, hplan, hkinds, query, s, keys, before, having, site.fragment.stages, filter,
    whereLabel, groupLabel, havingLabel, hparse, hbody, hreads, huncalculated, hstages⟩

end Statement

end JoinPlan
