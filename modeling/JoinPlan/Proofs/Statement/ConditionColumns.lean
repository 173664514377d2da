import JoinPlan.Proofs.Branch
import JoinPlan.Proofs.Join.Regrouping

/-!
# Columns that a join condition has to know

A lookup in a dimension table and a table function check every column of their condition. A join of
streams asks only for the first column of each equality of two columns, and that only where the two
are not the same. What else its condition reads may be a column of neither side.
-/

namespace JoinPlan

open Build

/-! ## Keys -/

namespace JoinKeys

variable {left right : Scope}

theorem isSome_pairFor_iff {a b : Column} :
    (pairFor left right (a, b)).isSome = true ↔
      a.text = b.text ∨ (resolveEither a.text left right).isSome = true := by
  unfold pairFor pairOf resolveEither
  by_cases htext : a.text = b.text
  · simp [htext]
  · rw [if_neg htext, or_iff_right htext]
    cases left.resolve a.text <;> simp

theorem mem_equalities {p : Predicate} {a b : Column} :
    (a, b) ∈ equalities p ↔ ∃ name, .leaf ⟨name, .column a, .eq, .column b⟩ ∈ p.conjuncts := by
  simp only [equalities, List.mem_filterMap, Predicate.equated?_eq_some]
  constructor
  · rintro ⟨part, hpart, name, rfl⟩
    exact ⟨name, hpart⟩
  · rintro ⟨name, hpart⟩
    exact ⟨_, hpart, name, rfl⟩

/-- A condition makes keys when two columns are equated and the first of each two is known, or the
second is the same. -/
theorem exists_ofCondition_iff {on : JoinCondition} :
    (∃ keys, ofCondition on left right = .ok keys) ↔
      (∃ name a b, .leaf ⟨name, .column a, .eq, .column b⟩ ∈ on.predicate.conjuncts) ∧
        ∀ name a b, .leaf ⟨name, .column a, .eq, .column b⟩ ∈ on.predicate.conjuncts →
          a.text = b.text ∨ (resolveEither a.text left right).isSome = true := by
  simp only [ofCondition_eq_ok_iff, exists_and_left, exists_eq', and_true]
  constructor
  · rintro ⟨hne, hall⟩
    obtain ⟨pair, hpair⟩ := List.exists_mem_of_ne_nil _ hne
    obtain ⟨⟨a, b⟩, hab, -⟩ := List.mem_filterMap.mp hpair
    obtain ⟨name, hpart⟩ := mem_equalities.mp hab
    exact ⟨⟨name, a, b, hpart⟩, fun name a b hpart =>
      isSome_pairFor_iff.mp (hall (a, b) (mem_equalities.mpr ⟨name, hpart⟩))⟩
  · rintro ⟨⟨name, a, b, hpart⟩, hall⟩
    have hsome : ∀ e ∈ equalities on.predicate, (pairFor left right e).isSome = true := by
      rintro ⟨a, b⟩ hab
      obtain ⟨name, hpart⟩ := mem_equalities.mp hab
      exact isSome_pairFor_iff.mpr (hall name a b hpart)
    have hab : (a, b) ∈ equalities on.predicate := mem_equalities.mpr ⟨name, hpart⟩
    obtain ⟨pair, hpair⟩ := Option.isSome_iff_exists.mp (hsome (a, b) hab)
    exact ⟨List.ne_nil_of_mem (List.mem_filterMap.mpr ⟨(a, b), hab, hpair⟩), hsome⟩

end JoinKeys

/-! ## Joins of tables -/

namespace Join

variable {j : Join} {on : JoinCondition}

/-- Whether a condition passes what a join asks of it. -/
def Accepts (j : Join) (on : JoinCondition) : Prop :=
  match j.strategy with
  | .dimension | .lateral =>
    ∀ c ∈ on.predicate.columns, c.text ≠ "" ∧ (j.columnText c.text).isSome = true
  | .stream =>
    (∃ name a b, .leaf ⟨name, .column a, .eq, .column b⟩ ∈ on.predicate.conjuncts) ∧
      ∀ name a b, .leaf ⟨name, .column a, .eq, .column b⟩ ∈ on.predicate.conjuncts →
        a.text = b.text ∨ (j.columnText a.text).isSome = true

theorem isSome_columnText {raw : String} :
    (j.columnText raw).isSome = (resolveEither raw j.left.scope j.right.scope).isSome := by
  rw [columnText, Option.isSome_map, resolve]

theorem unknownColumn?_eq_none_iff :
    j.unknownColumn? on = none ↔
      ∀ c ∈ on.predicate.columns, c.text ≠ "" ∧ (j.columnText c.text).isSome = true := by
  rw [unknownColumn?, List.find?_eq_none]
  refine forall₂_congr fun c _ => ?_
  cases j.columnText c.text <;> simp

theorem accepts_withFilters (left right : List Predicate) :
    (j.withFilters left right).Accepts on ↔ j.Accepts on := by
  have hstrategy : (j.withFilters left right).strategy = j.strategy :=
    Source.strategy_withFilters j.right right
  simp only [Accepts, hstrategy, columnText, resolve_withFilters]

end Join

namespace Source

/-- Rows never come from a dimension table alone. -/
theorem Builds.strategy_ne_dimension {src : Source} {place : Place} {role : Role} {s t : Site}
    (h : src.Builds place role s t) : src.strategy ≠ .dimension := by
  cases h <;> nofun

theorem buildable_of_isTable {src : Source} (htable : src.isTable = true)
    (h : src.strategy ≠ .dimension) : src.Buildable := by
  cases src with
  | stream t filters => exact .stream t filters
  | lateral t function args => exact .lateral t function args
  | dimension => exact absurd rfl h
  | join => cases htable

end Source

namespace Join

variable {j : Join} {on : JoinCondition} {s t : Site}

/-- At the top, rows of a join never come from a dimension table. -/
theorem strategy_left_of_build (h : j.build .root s = .ok () t) : j.left.strategy ≠ .dimension := by
  obtain ⟨left, right, kind, condition⟩ := j
  cases Source.builds_of_build h with
  | lookup _ hrows | expand _ hrows | window _ _ _ _ _ hrows => exact hrows.strategy_ne_dimension
  | reference _ hown => cases hown

/-- A join that is built at the top accepts its condition. -/
theorem accepts_of_build (hon : j.on = some on) (h : j.build .root s = .ok () t) :
    j.left.strategy ≠ .dimension ∧ j.Accepts on := by
  refine ⟨strategy_left_of_build h, ?_⟩
  obtain ⟨left, right, kind, condition⟩ := j
  cases hon
  cases Source.builds_of_build h with
  | lookup hcolumns => exact unknownColumn?_eq_none_iff.mp hcolumns
  | expand hcolumns => exact unknownColumn?_eq_none_iff.mp (hcolumns on rfl)
  | reference _ hown => cases hown
  | window hstream _ _ hwindow =>
    obtain ⟨keys, hkeys, -⟩ := JoinWindow.ofCondition_eq_ok.mp hwindow
    have hstrategy : Join.strategy ⟨left, right, kind, some on⟩ = .stream := hstream
    simp only [Accepts, hstrategy, isSome_columnText]
    exact JoinKeys.exists_ofCondition_iff.mp ⟨keys, hkeys⟩

/-- A join of two tables is built when its left table gives rows and it accepts its condition. -/
theorem build_of_accepts (hleft : j.left.isTable = true) (hright : j.right.isTable = true)
    (hon : j.on = some on) (hrows : j.left.strategy ≠ .dimension) (haccepts : j.Accepts on)
    (role : Role) (s : Site) : ∃ t, j.build role s = .ok () t := by
  obtain ⟨left, right, kind, condition⟩ := j
  cases hon
  have hsource : left.Buildable := left.buildable_of_isTable hleft hrows
  have hbuildable : (Source.join left right kind (some on)).Buildable := by
    cases right with
    | dimension => exact .lookup hsource (unknownColumn?_eq_none_iff.mpr haccepts)
    | lateral =>
      refine .expand hsource fun c hc => ?_
      cases hc
      exact unknownColumn?_eq_none_iff.mpr haccepts
    | stream t filters =>
      have hstrategy : Join.strategy ⟨left, .stream t filters, kind, some on⟩ = .stream := rfl
      simp only [Accepts, hstrategy, isSome_columnText] at haccepts
      obtain ⟨keys, hkeys⟩ := JoinKeys.exists_ofCondition_iff.mpr haccepts
      exact .window rfl hsource (.stream t filters) hkeys
    | join => cases hright
  exact hbuildable.build_succeeds [] role s

end Join

/-! ## Statements -/

theorem JoinQuery.on_of_join {q : JoinQuery} {catalog : Catalog} {j : Join}
    (h : q.join catalog = .ok j) : j.on = q.on := by
  simp only [join, Outcome.bind_eq_ok, Outcome.pure_eq_ok] at h
  obtain ⟨_, _, _, _, rfl⟩ := h
  rfl

namespace Statement

variable {s : Statement} {catalog : Catalog} {settings : Settings} {on : JoinCondition} {j : Join}

/-- Whether the sides of its join know the columns that a statement groups by. -/
def KnowsKeys (s : Statement) (j : Join) : Prop :=
  ∀ q, s.grouped? = some q → ∀ key ∈ q.keys, (j.columnText key.text).isSome = true

theorem exists_placedJoin_iff :
    (∃ placed, s.placedJoin settings j = .ok placed) ↔ s.KnowsKeys j := by
  unfold placedJoin KnowsKeys
  cases s.grouped? with
  | none => simp
  | some q =>
    have hunknown : q.unknownKey? j = none ↔
        ∀ key ∈ q.keys, (j.columnText key.text).isSome = true := by
      simp [GroupedQuery.unknownKey?, List.find?_eq_none, Option.isSome_iff_ne_none]
    cases hkey : q.unknownKey? j with
    | none => simpa [hkey] using hunknown
    | some key => simpa [hkey] using hunknown

/-- A statement with a condition has a plan when the settings have names, both tables are there, the
columns of its groups are known, its left table gives rows and its join accepts the condition. -/
theorem exists_compile_iff (hon : s.query.on = some on) (hj : s.query.join catalog = .ok j) :
    (∃ plan, s.compile catalog settings .root = .ok plan) ↔
      settings.validate = .ok () ∧ s.KnowsKeys j ∧ j.left.strategy ≠ .dimension ∧ j.Accepts on := by
  constructor
  · rintro ⟨plan, hplan⟩
    obtain ⟨hvalid, j', hj', placed, filter, hplaced, site, hsite, -⟩ := compile_eq_ok.mp hplan
    cases hj.symm.trans hj'
    obtain ⟨m, hbuild, -⟩ := seq_eq_ok.mp hsite
    have hkeys := exists_placedJoin_iff.mp ⟨_, hplaced⟩
    obtain ⟨left, right, rfl⟩ := placedJoin_eq_withFilters hplaced
    have hcondition : (j.withFilters left right).on = some on := (JoinQuery.on_of_join hj).trans hon
    obtain ⟨hrows, haccepts⟩ := Join.accepts_of_build hcondition hbuild
    exact ⟨hvalid, hkeys, Source.strategy_withFilters j.left left ▸ hrows,
      (Join.accepts_withFilters left right).mp haccepts⟩
  · rintro ⟨hvalid, hkeys, hrows, haccepts⟩
    obtain ⟨⟨placed, filter⟩, hplaced⟩ := exists_placedJoin_iff.mpr hkeys
    obtain ⟨hleft, hright, -⟩ := tables_of_placedJoin hj hplaced
    obtain ⟨left, right, rfl⟩ := placedJoin_eq_withFilters hplaced
    obtain ⟨m, hbuild⟩ := Join.build_of_accepts hleft hright ((JoinQuery.on_of_join hj).trans hon)
      ((Source.strategy_withFilters j.left left).symm ▸ hrows)
      ((Join.accepts_withFilters left right).mpr haccepts) .root
      (Build.start settings.space settings.root)
    obtain ⟨site, hsite⟩ := s.unlessBreak_buildBehind_succeeds filter m
    exact ⟨_, compile_eq_ok.mpr ⟨hvalid, j, hj, _, filter, hplaced, site,
      seq_eq_ok.mpr ⟨m, hbuild, hsite⟩, rfl⟩⟩

/-- With settings that have names and known group columns, only the build of a plan can fail. -/
theorem kind_of_compile_error {role : Role} {e : PlanError} (hvalid : settings.validate = .ok ())
    (hkeys : ∀ j, s.query.join catalog = .ok j → s.KnowsKeys j)
    (h : s.compile catalog settings role = .error e) : e.kind = .planning := by
  rw [compile, hvalid, Outcome.bind_eq_error] at h
  obtain hvalid' | ⟨-, -, h⟩ := h
  · cases hvalid'
  obtain htable | ⟨j, hj, h⟩ := Outcome.bind_eq_error.mp h
  · obtain ⟨cause, -, rfl⟩ := Outcome.mapError_eq_error.mp htable
    rfl
  obtain hkey | ⟨⟨placed, filter⟩, -, h⟩ := Outcome.bind_eq_error.mp h
  · obtain ⟨cause, hcause, -⟩ := Outcome.mapError_eq_error.mp hkey
    obtain ⟨placed, hplaced⟩ := exists_placedJoin_iff.mpr (hkeys j (Outcome.mapError_eq_ok.mp hj))
    cases hcause.symm.trans hplaced
  dsimp only at h
  split at h
  · cases h
  · cases h
    rfl

/-- What a statement needs to have a plan, and the errors of the others. Behind a lookup or a table
function every column of the condition is known. Of the condition of a join of streams nothing is
known but the first column of each two that it equates. -/
theorem compiles_iff_accepts (s : Statement) (catalog : Catalog) (settings : Settings)
    (hon : s.query.on = some on) :
    (∀ j, s.query.join catalog = .ok j →
      ((∃ plan, s.compile catalog settings .root = .ok plan) ↔
        settings.validate = .ok () ∧ s.KnowsKeys j ∧ j.left.strategy ≠ .dimension ∧
          j.Accepts on)) ∧
    (settings.validate = .ok () → (∀ j, s.query.join catalog = .ok j → s.KnowsKeys j) →
      ∀ e, s.compile catalog settings .root = .error e → e.kind = .planning) :=
  ⟨fun _ => exists_compile_iff hon, fun hvalid hkeys _ => kind_of_compile_error hvalid hkeys⟩

/-- A column that the payments do not have. -/
def mistyped : Column := ⟨some "p", "amonut"⟩

/-- Orders with their payments, on a condition that reads a column of neither table. -/
def mistypedCondition : JoinCondition where
  content := "orders.id = p.order_id AND p.amonut > 1"
  predicate :=
    .and [.compare (.column ⟨some "orders", "id"⟩) .eq (.column ⟨some "p", "order_id"⟩),
      .compare (.column mistyped) .gt (.literal (.scalar "1" (.int 1)))]

@[inherit_doc mistypedCondition]
def mistypedPayments : JoinQuery where
  content := ""
  source := ⟨"orders", none⟩
  joined := ⟨"payments", some "p"⟩
  kind := .inner
  on := some mistypedCondition
  items := []

theorem mistyped_mem_columns : mistyped ∈ mistypedCondition.predicate.columns := by decide

/-- A ledger in which payments are looked up. -/
def lookupLedger : Catalog :=
  Dict.ofList [("orders", ⟨.stream, ["id"]⟩), ("payments", ⟨.dimension, ["id", "order_id"]⟩)]

theorem compiles_iff_accepts_mistypedPayments :
    (Statement.join mistypedPayments).query.on = some mistypedCondition ∧
      ∃ e, (Statement.join mistypedPayments).compile lookupLedger .default .root = .error e ∧
        e.kind = .planning := by
  have hon : (Statement.join mistypedPayments).query.on = some mistypedCondition := rfl
  obtain ⟨hplans, herrors⟩ :=
    compiles_iff_accepts (.join mistypedPayments) lookupLedger .default hon
  refine ⟨hon, ?_⟩
  cases h : (Statement.join mistypedPayments).compile lookupLedger .default .root with
  | ok plan =>
    obtain ⟨-, -, -, haccepts⟩ := (hplans _ rfl).mp ⟨plan, h⟩
    have hknown : _ ∧ _ := haccepts mistyped mistyped_mem_columns
    exact absurd hknown.2 (by decide)
  | error e => exact ⟨e, rfl, herrors Settings.validate_default (fun _ _ _ => nofun) e h⟩

/-- Where payments are a stream the same condition is accepted. -/
theorem compiles_with_unknown_column_mistypedPayments :
    ∃ j plan, mistypedPayments.join GroupedQuery.ledger = .ok j ∧
      (Statement.join mistypedPayments).compile GroupedQuery.ledger .default .root = .ok plan ∧
      mistyped ∈ mistypedCondition.predicate.columns ∧ j.columnText mistyped.text = none := by
  have haccepts : (mistypedPayments.ofStreams ["id"] ["id", "order_id"]).Accepts
      mistypedCondition := by
    refine ⟨⟨_, _, _, List.mem_cons_self⟩, fun name a b hpart => ?_⟩
    obtain hpart | hpart := List.mem_pair.mp hpart
    · cases hpart
      exact Or.inr (by decide)
    · cases hpart
  have hon : (Statement.join mistypedPayments).query.on = some mistypedCondition := rfl
  have hjoin : (Statement.join mistypedPayments).query.join GroupedQuery.ledger =
      .ok (mistypedPayments.ofStreams ["id"] ["id", "order_id"]) := rfl
  have hkeys : (Statement.join mistypedPayments).KnowsKeys
      (mistypedPayments.ofStreams ["id"] ["id", "order_id"]) := by
    rintro q ⟨⟩
  obtain ⟨plan, hplan⟩ := (exists_compile_iff hon hjoin).mpr
    ⟨Settings.validate_default, hkeys, by decide, haccepts⟩
  exact ⟨_, plan, hjoin, hplan, mistyped_mem_columns, by decide⟩

end Statement

end JoinPlan
