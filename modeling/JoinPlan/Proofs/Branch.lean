import JoinPlan.Proofs.Build.Branches
import JoinPlan.Proofs.PushDown
import JoinPlan.Proofs.Statement.Behind

/-!
# Compiling a branch

A statement is compiled for the root of its plan or for a branch of a join around it. Both plans are
the same, but for the branch that reads the joined stream of the statement: that one is a reference to
the right fragment in the plan of the root.
-/

namespace JoinPlan

open Build NameSupply

/-- Whether a join with this right fragment comes first among stages, and no other join behind it. -/
def JoinsWith (right : Header) (stages : List Stage) : Prop :=
  ∃ label window left leftStages rightStages dependency behind,
    stages = .join label window left leftStages right rightStages dependency :: behind ∧
      ∀ stage ∈ behind, stage.isJoin = false

theorem Settings.root_ne_empty {settings : Settings} (h : settings.validate = .ok ()) :
    settings.root ≠ "" := by
  intro hroot
  have hblank : Text.trim settings.root = "" := by
    rw [hroot]
    decide
  unfold validate at h
  rw [if_pos hblank] at h
  split at h <;> cases h

/-! ## The tables of a statement -/

/-- What the catalog says about a table is what its source shows. -/
theorem TableRef.of_source {t : TableRef} {catalog : Catalog} {source : Source}
    (h : t.source catalog = .ok source) :
    source.isTable = true ∧ source.tableName = t.name ∧
      ∃ entry, catalog.get? t.name = some entry ∧
        (source.strategy = .stream ↔ entry.kind = .stream) := by
  unfold TableRef.source Source.ofCatalog? at h
  cases hentry : catalog.get? t.name with
  | none => simp [hentry] at h
  | some entry =>
    obtain ⟨kind, columns⟩ := entry
    cases kind with
    | stream | dimension | lateral =>
      simp [hentry] at h
      subst h
      simp [Source.isTable, Source.tableName, Source.strategy]

theorem JoinQuery.of_join {q : JoinQuery} {catalog : Catalog} {j : Join}
    (h : q.join catalog = .ok j) :
    q.source.source catalog = .ok j.left ∧ q.joined.source catalog = .ok j.right := by
  simp only [join, Outcome.bind_eq_ok, Outcome.pure_eq_ok] at h
  obtain ⟨left, hleft, right, hright, rfl⟩ := h
  exact ⟨hleft, hright⟩

namespace Statement

variable {s : Statement} {settings : Settings} {catalog : Catalog} {role role' : Role}

/-- Filters are all that a statement puts on the sides of its join. -/
theorem placedJoin_eq_withFilters {j placed : Join} {filter : Option Predicate}
    (h : s.placedJoin settings j = .ok (placed, filter)) :
    ∃ left right, placed = j.withFilters left right := by
  unfold placedJoin at h
  split at h
  · cases h
    exact ⟨[], [], by simp [Join.withFilters]⟩
  · split at h
    · cases h
    · rw [GroupedQuery.placeFilters_eq] at h
      cases h
      exact ⟨_, _, rfl⟩

/-- The join that a compilation builds joins the two tables of the statement. -/
theorem tables_of_placedJoin {j placed : Join} {filter : Option Predicate}
    (hj : s.query.join catalog = .ok j) (h : s.placedJoin settings j = .ok (placed, filter)) :
    placed.left.isTable = true ∧ placed.right.isTable = true ∧
      placed.right.tableName = s.query.joined.name ∧
      ∃ entry, catalog.get? s.query.joined.name = some entry ∧
        (placed.right.strategy = .stream ↔ entry.kind = .stream) := by
  obtain ⟨hleft, hright⟩ := JoinQuery.of_join hj
  obtain ⟨htable, hname, hentry⟩ := TableRef.of_source hright
  obtain ⟨ls, rs, rfl⟩ := placedJoin_eq_withFilters h
  simp only [Join.withFilters, Source.isTable_withFilters, Source.strategy_withFilters,
    Source.tableName_withFilters htable]
  exact ⟨(TableRef.of_source hleft).1, htable, hname, hentry⟩

/-- A compilation reads its role only where it builds the join. -/
theorem compile_congr
    (h : ∀ {j placed filter}, s.query.join catalog = .ok j →
      s.placedJoin settings j = .ok (placed, filter) → placed.build role = placed.build role') :
    s.compile catalog settings role = s.compile catalog settings role' := by
  unfold compile
  refine Outcome.bind_congr_of_ok fun _ _ => ?_
  refine Outcome.bind_congr_of_ok fun j hj => ?_
  refine Outcome.bind_congr_of_ok fun placed hplaced => ?_
  have hbuild : placed.1.build role = placed.1.build role' :=
    h (Outcome.mapError_eq_ok.mp hj) (Outcome.mapError_eq_ok.mp hplaced)
  simp only [hbuild]

/-- Another role than that of the joined stream makes no difference, not even to an error. -/
theorem compile_eq_root
    (h : role = .right s.query.joined.name →
      ∀ entry, catalog.get? s.query.joined.name = some entry → entry.kind ≠ .stream) :
    s.compile catalog settings role = s.compile catalog settings .root := by
  apply compile_congr
  intro j placed filter hj hplaced
  obtain ⟨hleft, -, hname, entry, hentry, hstream⟩ := tables_of_placedJoin hj hplaced
  apply Join.build_of_not_ownRight hleft
  intro hstrategy
  cases role with
  | root | left => rfl
  | right table =>
    rw [Join.isOwnRight, hname, beq_eq_false_iff_ne]
    rintro rfl
    exact h rfl entry hentry (hstream.mp hstrategy)

/-- The branch of the joined stream is a reference to the right fragment in the plan of the root. -/
theorem compile_right_of_stream {columns : List String} {plan : Plan}
    (hentry : catalog.get? s.query.joined.name = some ⟨.stream, columns⟩)
    (hplan : s.compile catalog settings .root = .ok plan) :
    ∃ right reference, JoinsWith right plan.root.stages ∧
      s.compile catalog settings (.right s.query.joined.name) =
        .ok ⟨⟨⟨settings.space, settings.root, [], none, none, true⟩,
          [.reference reference right.name]⟩, plan.strategy⟩ := by
  obtain ⟨hvalid, j, hj, placed, filter, hplaced, site, hsite, rfl⟩ := compile_eq_ok.mp hplan
  obtain ⟨m, hbuild, hbehind⟩ := seq_eq_ok.mp hsite
  obtain ⟨hleft, hright, hname, entry, hentry', hstream⟩ := tables_of_placedJoin hj hplaced
  cases hentry.symm.trans hentry'
  have hstream : placed.right.strategy = .stream := hstream.mpr rfl
  obtain ⟨label, window, left, leftStages, right, rightStages, dependency, hstages, hrightName⟩ :=
    Join.stages_of_build_root (Settings.root_ne_empty hvalid) hleft hright hstream hbuild
  obtain ⟨behind, hbehindStages, hplain⟩ := (gains_of_unlessBreak hbehind).stages_eq
  rw [hstages] at hbehindStages
  obtain ⟨reference, t, hbranch, ht⟩ :=
    Join.fragment_of_build_right hstream settings.space settings.root
  rw [hname] at hbranch
  have hbreak : t.fragment.isBreak = true := by rw [ht]
  refine ⟨right, reference, ⟨label, window, left, leftStages, rightStages, dependency, behind,
    hbehindStages, fun stage hstage => Stage.isJoin_of_isPlain (hplain stage hstage)⟩, ?_⟩
  refine compile_eq_ok.mpr ⟨hvalid, j, hj, placed, filter, hplaced, t,
    seq_eq_ok.mpr ⟨t, hbranch, unlessBreak_of_break hbreak⟩, ?_⟩
  rw [ht, hrightName]

/-- Every branch has the plan of the root, or fails as that does, unless it is that of the joined
table and this is a stream. Then the plan of the branch is a reference, behind which nothing comes, to
the right fragment of the one join in the root. -/
theorem compile_branch (s : Statement) (catalog : Catalog) (settings : Settings) :
    (∀ role, (role = .right s.query.joined.name →
        ∀ entry, catalog.get? s.query.joined.name = some entry → entry.kind ≠ .stream) →
      s.compile catalog settings role = s.compile catalog settings .root) ∧
    ∀ columns plan, catalog.get? s.query.joined.name = some ⟨.stream, columns⟩ →
      s.compile catalog settings .root = .ok plan →
      ∃ branch right, s.compile catalog settings (.right s.query.joined.name) = .ok branch ∧
        branch.root.isBreak = true ∧ branch.root.registered = [] ∧
        branch.root.dependency = none ∧ JoinsWith right plan.root.stages ∧
        ∃ reference, branch.root.stages = [.reference reference right.name] := by
  refine ⟨fun role hrole => compile_eq_root hrole, fun columns plan hentry hplan => ?_⟩
  obtain ⟨right, reference, hright, hbranch⟩ := compile_right_of_stream hentry hplan
  exact ⟨_, right, hbranch, rfl, rfl, rfl, hright, reference, rfl⟩

open GroupedQuery in
/-- The left branch and that of another table have the plan of the root. That of the payments is a
reference to their fragment. -/
theorem compile_branch_paidOrders :
    ∃ plan branch right,
      (Statement.grouped (paidOrders .inner paidById)).compile ledger .default .root =
          .ok plan ∧
        (Statement.grouped (paidOrders .inner paidById)).compile ledger .default .left = .ok plan ∧
        (Statement.grouped (paidOrders .inner paidById)).compile ledger .default (.right "orders") =
          .ok plan ∧
      (Statement.grouped (paidOrders .inner paidById)).compile ledger .default (.right "payments") =
          .ok branch ∧
        branch.root.isBreak = true ∧ JoinsWith right plan.root.stages ∧
        ∃ reference, branch.root.stages = [.reference reference right.name] := by
  obtain ⟨plan, hplan⟩ := compiles_paidOrders .inner paidById true
  obtain ⟨hother, hown⟩ :=
    compile_branch (.grouped (paidOrders .inner paidById)) ledger .default
  obtain ⟨branch, right, hbranch, hbreak, -, -, hright, hreference⟩ :=
    hown ["id", "order_id"] plan rfl hplan
  have horders : Role.right "orders" ≠ .right "payments" := by decide
  exact ⟨plan, branch, right, hplan, (hother .left nofun).trans hplan,
    (hother (.right "orders") fun hrole => absurd hrole horders).trans hplan, hbranch, hbreak,
    hright, hreference⟩

end Statement

end JoinPlan
