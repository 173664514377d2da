import JoinPlan.Proofs.Build.Streams
import JoinPlan.Proofs.Statement.Compile
import JoinPlan.Proofs.Statement.PushDown

/-!
# Plans of grouped queries over streams

The plan of a grouped query that joins two streams has a filter on each side, for the parts that the
side took, and a filter behind the join for the rest. Whether there is a plan does not depend on the
filters.
-/

namespace JoinPlan

open Build Predicate

/-! ## Filters of a plan -/

namespace Plan

/-- The predicates of the filters of the root fragment. -/
def rootFilters (plan : Plan) : List Predicate :=
  filtersAmong plan.root.stages

/-- The predicates of the filters in the fragments of a side of the joins in the root fragment. -/
def sideFilters (plan : Plan) (side : Side) : List Predicate :=
  sideFiltersAmong side plan.root.stages

end Plan

/-! ## Joins of streams -/

/-- The table that a statement names, with the columns that it has. An empty alias is none. -/
def TableRef.table (t : TableRef) (columns : List String) : Table :=
  ⟨t.name, t.asName.filter (· ≠ ""), columns⟩

theorem TableRef.source_of_stream {t : TableRef} {catalog : Catalog} {columns : List String}
    (h : catalog.get? t.name = some ⟨.stream, columns⟩) :
    t.source catalog = .ok (.stream (t.table columns) []) := by
  simp [source, Source.ofCatalog?, h, table]

/-- The join of a query whose tables are streams of these columns. -/
def JoinQuery.ofStreams (q : JoinQuery) (leftColumns rightColumns : List String) : Join :=
  ⟨.stream (q.source.table leftColumns) [], .stream (q.joined.table rightColumns) [], q.kind, q.on⟩

/-- A query whose tables are streams of a catalog with these columns. -/
structure JoinQuery.OverStreams (q : JoinQuery) (catalog : Catalog)
    (leftColumns rightColumns : List String) : Prop where
  left : catalog.get? q.source.name = some ⟨.stream, leftColumns⟩
  right : catalog.get? q.joined.name = some ⟨.stream, rightColumns⟩

variable {catalog : Catalog} {leftColumns rightColumns : List String}

theorem JoinQuery.OverStreams.join_eq {q : JoinQuery}
    (h : q.OverStreams catalog leftColumns rightColumns) :
    q.join catalog = .ok (q.ofStreams leftColumns rightColumns) := by
  rw [join, TableRef.source_of_stream h.left, TableRef.source_of_stream h.right]
  rfl

/-! ## Placing filters -/

namespace GroupedQuery

/-- The parts of the filter before the join. -/
def parts (q : GroupedQuery) : List Predicate :=
  conjunctsOf q.before.toList

/-- The filters that a query puts on a side of its join. -/
def sideParts (q : GroupedQuery) (settings : Settings) (j : Join) (side : Side) : List Predicate :=
  if settings.pushDown then j.takenBy side q.parts else []

/-- The filters that a query puts behind its join. -/
def restParts (q : GroupedQuery) (settings : Settings) (j : Join) : List Predicate :=
  (if settings.pushDown then j.leftOver q.parts else q.before.toList) ++ q.after.toList

theorem pushBefore_eq (q : GroupedQuery) (settings : Settings) (j : Join) :
    q.pushBefore settings j =
      (j.withFilters (q.sideParts settings j .left) (q.sideParts settings j .right),
        if settings.pushDown then j.leftOver q.parts else q.before.toList) := by
  unfold pushBefore sideParts parts
  cases q.before with
  | none => cases settings.pushDown <;> simp [conjunctsOf, Join.takenBy, Join.taken, Join.leftOver,
      Join.withFilters]
  | some p =>
    cases settings.pushDown with
    | true => simp [Join.pushDown, Join.pushParts_eq, conjunctsOf]
    | false => simp [Join.withFilters]

theorem placeFilters_eq (q : GroupedQuery) (settings : Settings) (j : Join) :
    q.placeFilters settings j =
      (j.withFilters (q.sideParts settings j .left) (q.sideParts settings j .right),
        andAll ((q.restParts settings j).map j.localize)) := by
  simp only [placeFilters, pushBefore_eq, map_andAll, restParts]
  rfl

/-! ## Compiling -/

theorem placedJoin_eq_ok {q : GroupedQuery} {settings : Settings} {j : Join}
    {placed : Join × Option Predicate} :
    (Statement.grouped q).placedJoin settings j = .ok placed ↔
      q.unknownKey? j = none ∧ q.placeFilters settings j = placed := by
  simp only [Statement.placedJoin, Statement.grouped?]
  cases q.unknownKey? j <;> simp

variable {q : GroupedQuery} {settings : Settings}

/-- A join of streams with filters on its sides is one of the streams with these filters. -/
theorem withFilters_ofStreams (fs gs : List Predicate) :
    (q.join.ofStreams leftColumns rightColumns).withFilters fs gs =
      ⟨.stream (q.join.source.table leftColumns) fs, .stream (q.join.joined.table rightColumns) gs,
        q.join.kind, q.join.on⟩ := rfl

/-- A query over streams has a plan when the settings have names, the sides know the keys of the
groups, and the condition of the join makes keys. -/
theorem compiles_iff (h : q.join.OverStreams catalog leftColumns rightColumns) :
    (∃ plan, (Statement.grouped q).compile catalog settings .root = .ok plan) ↔
      settings.validate = .ok () ∧
        q.unknownKey? (q.join.ofStreams leftColumns rightColumns) = none ∧
        ∃ on keys, q.join.on = some on ∧
          JoinKeys.ofCondition on (q.join.source.table leftColumns).scope
            (q.join.joined.table rightColumns).scope = .ok keys := by
  constructor
  · rintro ⟨plan, hplan⟩
    obtain ⟨hvalid, j, hj, placed, filter, hplaced, site, hsite, -⟩ :=
      Statement.compile_eq_ok.mp hplan
    cases h.join_eq.symm.trans hj
    obtain ⟨hkey, hfilters⟩ := placedJoin_eq_ok.mp hplaced
    rw [placeFilters_eq, withFilters_ofStreams] at hfilters
    cases hfilters
    obtain ⟨_, r, hbuild, -⟩ := bind_eq_ok.mp hsite
    obtain ⟨on, keys, hon, hkeys⟩ := Join.keys_of_build_streams hbuild
    exact ⟨hvalid, hkey, on, keys, hon, hkeys⟩
  · rintro ⟨hvalid, hkey, on, keys, hon, hkeys⟩
    obtain ⟨r, hr⟩ : ∃ r, (q.placeFilters settings (q.join.ofStreams leftColumns
        rightColumns)).1.build .root (Build.start settings.space settings.root) = .ok () r := by
      rw [placeFilters_eq, withFilters_ofStreams, hon]
      exact Join.build_streams_succeeds hkeys _
    obtain ⟨r', hr'⟩ := (Statement.grouped q).unlessBreak_buildBehind_succeeds
      (q.placeFilters settings (q.join.ofStreams leftColumns rightColumns)).2 r
    exact ⟨_, Statement.compile_eq_ok.mpr ⟨hvalid, _, h.join_eq, _, _,
      placedJoin_eq_ok.mpr ⟨hkey, rfl⟩, r', bind_eq_ok.mpr ⟨(), r, hr, hr'⟩, rfl⟩⟩

/-- The filters of a plan are those that the query places on the sides and behind the join. -/
theorem filters_of_compile (h : q.join.OverStreams catalog leftColumns rightColumns) {plan : Plan}
    (hplan : (Statement.grouped q).compile catalog settings .root = .ok plan) :
    (∀ side, plan.sideFilters side = (andAll
        (q.sideParts settings (q.join.ofStreams leftColumns rightColumns) side)).toList) ∧
      plan.rootFilters = (andAll ((q.restParts settings
        (q.join.ofStreams leftColumns rightColumns)).map
          (q.join.ofStreams leftColumns rightColumns).localize)).toList := by
  obtain ⟨-, j, hj, placed, filter, hplaced, site, hsite, rfl⟩ := Statement.compile_eq_ok.mp hplan
  cases h.join_eq.symm.trans hj
  obtain ⟨-, hfilters⟩ := placedJoin_eq_ok.mp hplaced
  rw [placeFilters_eq, withFilters_ofStreams] at hfilters
  cases hfilters
  obtain ⟨_, r, hbuild, hbehind⟩ := bind_eq_ok.mp hsite
  obtain ⟨hbreak, stage, hstages, hfilter, hleft, hright⟩ := Join.of_build_streams hbuild
  rw [unlessBreak_of_not_break hbreak] at hbehind
  obtain ⟨label, label', r', hr', hstages'⟩ := q.buildBehind_succeeds _ r
  cases hbehind.symm.trans hr'
  obtain ⟨hroot, hside⟩ := q.filters_behind _ label label'
  rw [hstages] at hstages'
  constructor
  · intro side
    rw [Plan.sideFilters, hstages', sideFiltersAmong_append, hside, List.append_nil]
    cases side
    · exact (List.append_nil _).trans hleft
    · exact (List.append_nil _).trans hright
  · rw [Plan.rootFilters, hstages', filtersAmong_append, hroot]
    simp [Build.start, hfilter]

end GroupedQuery

end JoinPlan
