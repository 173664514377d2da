import JoinPlan.Proofs.Build.Steps
import JoinPlan.Proofs.Outcome
import JoinPlan.Proofs.Plan.Filters
import JoinPlan.Statement.Compile

/-!
# Steps of a compilation that succeeds

What a compilation has checked and built when it gives a plan, and the stages that stand behind the
join of a grouped query.
-/

namespace JoinPlan

open Build

/-! ## Compiling -/

theorem Settings.validate_default : Settings.default.validate = .ok () := by
  rw [validate, if_neg (by decide +kernel), if_neg (by decide +kernel)]

theorem Statement.compile_eq_ok {s : Statement} {catalog : Catalog} {settings : Settings}
    {role : Role} {plan : Plan} :
    s.compile catalog settings role = .ok plan ↔
      settings.validate = .ok () ∧ ∃ j, s.query.join catalog = .ok j ∧
        ∃ placed filter, s.placedJoin settings j = .ok (placed, filter) ∧
          ∃ site, (do placed.build role; unlessBreak (s.buildBehind filter) : Build Unit)
              (Build.start settings.space settings.root) = .ok () site ∧
            ⟨site.fragment, placed.strategy⟩ = plan := by
  simp only [compile, Outcome.bind_eq_ok, Outcome.mapError_eq_ok, Prod.exists]
  constructor
  · rintro ⟨_, hvalid, j, hj, placed, filter, hplaced, h⟩
    refine ⟨hvalid, j, hj, placed, filter, hplaced, ?_⟩
    split at h
    · rename_i site hsite
      exact ⟨site, hsite, Outcome.pure_eq_ok.mp h⟩
    · cases h
  · rintro ⟨hvalid, j, hj, placed, filter, hplaced, site, hsite, rfl⟩
    refine ⟨(), hvalid, j, hj, placed, filter, hplaced, ?_⟩
    rw [hsite]
    rfl

theorem unlessBreak_of_not_break {b : Build Unit} {s : Site} (h : s.fragment.isBreak = false) :
    unlessBreak b s = b s := by
  simp [unlessBreak, bind, EStateM.bind, fragment, h]

theorem unlessBreak_of_break {b : Build Unit} {s : Site} (h : s.fragment.isBreak = true) :
    unlessBreak b s = .ok () s := by
  simp [unlessBreak, bind, EStateM.bind, fragment, h]
  rfl

/-! ## Behind the join -/

namespace GroupedQuery

/-- The stage that groups the rows of a query, or that runs its functions on them. -/
def groupStage? (q : GroupedQuery) (label : String) : Option Stage :=
  if q.keys.isEmpty && q.join.aggregates.isEmpty then
    if q.join.calls.isEmpty then none else some (.enrich label q.join.calls)
  else some (.group label q.keys q.join.aggregates q.join.calls)

theorem buildFilter_succeeds (filter : Option Predicate) (s : Site) :
    ∃ label r, buildFilter filter s = .ok () r ∧
      r.fragment.stages = s.fragment.stages ++ (filter.map (.filter ⟨label, ·⟩)).toList := by
  cases filter with
  | none => exact ⟨"", s, rfl, by simp⟩
  | some p =>
    obtain ⟨label, r, hr, hf, -⟩ := addStage_succeeds ["where"] (.filter ⟨·, p⟩) s
    exact ⟨label, r, hr, by rw [hf]; rfl⟩

theorem buildCalls_succeeds (calls : List FunctionCall) (s : Site) :
    ∃ label r, buildCalls calls s = .ok () r ∧
      r.fragment.stages =
        s.fragment.stages ++ (if calls.isEmpty then none else some (.enrich label calls)).toList := by
  unfold buildCalls
  cases calls.isEmpty with
  | true => exact ⟨"", s, rfl, by simp⟩
  | false =>
    obtain ⟨label, r, hr, hf, -⟩ := addStage_succeeds ["enrich"] (.enrich · calls) s
    exact ⟨label, r, hr, by rw [hf]; rfl⟩

theorem buildGroups_succeeds (q : GroupedQuery) (s : Site) :
    ∃ label r, q.buildGroups s = .ok () r ∧
      r.fragment.stages = s.fragment.stages ++ (q.groupStage? label).toList := by
  unfold buildGroups groupStage?
  split
  · exact buildCalls_succeeds q.join.calls s
  · obtain ⟨label, r, hr, hf, -⟩ :=
      addStage_succeeds ["group"] (.group · q.keys q.join.aggregates q.join.calls) s
    exact ⟨label, r, hr, by rw [hf]; rfl⟩

/-- Behind the join come the filter, if there is one, and then the groups or the functions. -/
theorem buildBehind_succeeds (q : GroupedQuery) (filter : Option Predicate) (s : Site) :
    ∃ label label' r, q.buildBehind filter s = .ok () r ∧
      r.fragment.stages = s.fragment.stages ++
        ((filter.map (.filter ⟨label, ·⟩)).toList ++ (q.groupStage? label').toList) := by
  obtain ⟨label, s₁, h₁, hstages₁⟩ := buildFilter_succeeds filter s
  obtain ⟨label', s₂, h₂, hstages₂⟩ := q.buildGroups_succeeds s₁
  refine ⟨label, label', s₂, bind_eq_ok.mpr ⟨(), s₁, h₁, h₂⟩, ?_⟩
  rw [hstages₂, hstages₁, List.append_assoc]

/-- The stages behind the join filter rows with the one predicate, and they join nothing. -/
theorem filters_behind (q : GroupedQuery) (filter : Option Predicate) (label label' : String) :
    filtersAmong ((filter.map (.filter ⟨label, ·⟩)).toList ++ (q.groupStage? label').toList) =
        filter.toList ∧
      ∀ side, sideFiltersAmong side
        ((filter.map (.filter ⟨label, ·⟩)).toList ++ (q.groupStage? label').toList) = [] := by
  have hgroup : filtersAmong (q.groupStage? label').toList = [] ∧
      ∀ side, sideFiltersAmong side (q.groupStage? label').toList = [] := by
    unfold groupStage?
    split
    · split <;> exact ⟨rfl, fun _ => rfl⟩
    · exact ⟨rfl, fun _ => rfl⟩
  constructor
  · rw [filtersAmong_append, hgroup.1, List.append_nil]
    cases filter <;> rfl
  · intro side
    rw [sideFiltersAmong_append, hgroup.2, List.append_nil]
    cases filter <;> rfl

end GroupedQuery

namespace Statement

/-- The stages of a statement behind its join, under the given labels. -/
def stagesBehind (s : Statement) (filter : Option Predicate)
    (whereLabel groupLabel havingLabel : String) : List Stage :=
  match s with
  | .join q => (if q.calls.isEmpty then none else some (.enrich groupLabel q.calls)).toList
  | .grouped q =>
    (filter.map (.filter ⟨whereLabel, ·⟩)).toList ++ (q.groupStage? groupLabel).toList
  | .having q =>
    (filter.map (.filter ⟨whereLabel, ·⟩)).toList ++ (q.grouped.groupStage? groupLabel).toList ++
      [.having havingLabel q.grouped.join.content q.having]

theorem buildBehind_succeeds (s : Statement) (filter : Option Predicate) (site : Site) :
    ∃ whereLabel groupLabel havingLabel r, s.buildBehind filter site = .ok () r ∧
      r.fragment.stages =
        site.fragment.stages ++ s.stagesBehind filter whereLabel groupLabel havingLabel := by
  cases s with
  | join q =>
    obtain ⟨label, r, hr, hstages⟩ := GroupedQuery.buildCalls_succeeds q.calls site
    exact ⟨"", label, "", r, hr, hstages⟩
  | grouped q =>
    obtain ⟨label, label', r, hr, hstages⟩ := q.buildBehind_succeeds filter site
    exact ⟨label, label', "", r, hr, hstages⟩
  | having q =>
    obtain ⟨label, label', m, hm, hstages⟩ := q.grouped.buildBehind_succeeds filter site
    obtain ⟨label'', r, hr, hf, -⟩ :=
      addStage_succeeds ["having"] (.having · q.grouped.join.content q.having) m
    refine ⟨label, label', label'', r, seq_eq_ok.mpr ⟨m, hm, hr⟩, ?_⟩
    rw [hf, Fragment.stages_add, hstages, List.append_assoc]
    rfl

theorem unlessBreak_buildBehind_succeeds (s : Statement) (filter : Option Predicate) (site : Site) :
    ∃ r, unlessBreak (s.buildBehind filter) site = .ok () r := by
  cases hbreak : site.fragment.isBreak with
  | true => exact ⟨site, unlessBreak_of_break hbreak⟩
  | false =>
    obtain ⟨-, -, -, r, hr, -⟩ := s.buildBehind_succeeds filter site
    exact ⟨r, (unlessBreak_of_not_break hbreak).trans hr⟩

end Statement

end JoinPlan
