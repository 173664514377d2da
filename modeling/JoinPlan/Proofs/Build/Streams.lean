import JoinPlan.Proofs.Build.Window
import JoinPlan.Proofs.Plan.Filters

/-!
# Joins of two streams

A join of two streams can be built when its condition makes keys, whatever filters its sides have.
It is one stage, with the filters of each side in the fragment of that side.
-/

namespace JoinPlan

open Build Predicate

/-! ## A side -/

theorem buildStream_eq_ok {t : Table} {filters : List Predicate} {s r : Site} :
    buildStream t filters s = .ok () r ↔
      ∃ m, addStage ["source", t.name] (.source · t.name t.asName) s = .ok () m ∧
        match Predicate.andAll filters with
        | some p =>
          addStage ["filter"] (.filter ⟨·, p⟩) (m.leave (m.fragment.dependOn t.name)) = .ok () r
        | none => m.leave (m.fragment.dependOn t.name) = r := by
  have hsteps : buildStream t filters = (do
      addStage ["source", t.name] (.source · t.name t.asName)
      onFragment (·.dependOn t.name)
      match Predicate.andAll filters with
      | some p => addStage ["filter"] (.filter ⟨·, p⟩)
      | none => pure ()) := rfl
  rw [hsteps]
  simp only [seq_eq_ok, onFragment_eq_ok, exists_eq_left']
  cases Predicate.andAll filters with
  | some p => rfl
  | none => simp [pure_eq_ok, Site.leave]

/-- A stream is read by one stage, and another one may filter. What the first makes true and the second
keeps holds when the stream is built. -/
@[elab_as_elim]
theorem of_buildStream {P : Site → Prop} {t : Table} {filters : List Predicate} {s r : Site}
    (h : buildStream t filters s = .ok () r)
    (hsource : ∀ {m}, addStage ["source", t.name] (.source · t.name t.asName) s = .ok () m →
      P (m.leave (m.fragment.dependOn t.name)))
    (hfilter : ∀ {m m' p}, P m → addStage ["filter"] (.filter ⟨·, p⟩) m = .ok () m' → P m') :
    P r := by
  obtain ⟨m, hread, hrest⟩ := buildStream_eq_ok.mp h
  cases hfilters : Predicate.andAll filters with
  | none =>
    rw [hfilters] at hrest
    exact hrest ▸ hsource hread
  | some p =>
    rw [hfilters] at hrest
    exact hfilter (hsource hread) hrest

theorem buildStream_succeeds (t : Table) (filters : List Predicate) (s : Site) :
    ∃ r, buildStream t filters s = .ok () r ∧
      filtersAmong r.fragment.stages =
        filtersAmong s.fragment.stages ++ (andAll filters).toList := by
  obtain ⟨label, m, hsource, hm, -⟩ :=
    addStage_succeeds ["source", t.name] (.source · t.name t.asName) s
  simp only [buildStream_eq_ok]
  cases hp : andAll filters with
  | none =>
    refine ⟨_, ⟨m, hsource, rfl⟩, ?_⟩
    simp [Site.leave, hm, filtersAmong_append, Stage.filter?]
  | some p =>
    obtain ⟨name, r, hfilter, hr, -⟩ :=
      addStage_succeeds ["filter"] (.filter ⟨·, p⟩) (m.leave (m.fragment.dependOn t.name))
    refine ⟨r, ⟨m, hsource, hfilter⟩, ?_⟩
    simp [Site.leave, hm, hr, filtersAmong_append, Stage.filter?]

/-- A stream is read by one stage, behind which another one has the filters, if there are any. -/
theorem stages_of_buildStream {t : Table} {filters : List Predicate} {s r : Site}
    (h : buildStream t filters s = .ok () r) :
    ∃ label label', r.fragment.stages = s.fragment.stages ++ .source label t.name t.asName ::
      ((andAll filters).map (.filter ⟨label', ·⟩)).toList := by
  obtain ⟨m, hsource, hrest⟩ := buildStream_eq_ok.mp h
  cases addStage_eq_ok.mp hsource
  cases hfilters : andAll filters with
  | none =>
    rw [hfilters] at hrest
    cases hrest
    exact ⟨_, "", rfl⟩
  | some p =>
    rw [hfilters] at hrest
    cases addStage_eq_ok.mp hrest
    exact ⟨_, _, List.append_assoc _ _ _⟩

theorem buildSide_stream_succeeds (t : Table) (filters : List Predicate) (window : JoinWindow)
    (name : String) (s : Site) :
    ∃ f r, Join.buildSide window name (buildStream t filters) s = .ok f r ∧
      filtersAmong f.stages = (andAll filters).toList := by
  obtain ⟨l, hl, hfilters⟩ := buildStream_succeeds t filters (s.enter name)
  obtain ⟨label, l', hl', hf', -⟩ := addStage_succeeds ["emit"] (.emit · window) l
  refine ⟨l'.fragment, _, Join.buildSide_eq_ok.mpr ⟨l, l', hl, hl', rfl, rfl⟩, ?_⟩
  rw [hf', Fragment.stages_add, filtersAmong_append, hfilters]
  simp [Site.enter, Stage.filter?]

/-! ## The join -/

namespace Join

variable {t u : Table} {fs gs : List Predicate} {kind : JoinKind} {on : Option JoinCondition}

theorem stages_withArrival (j : Join) (side : Source) (f : Fragment) :
    (j.withArrival side f).stages = f.stages := by
  unfold withArrival
  split <;> rfl

theorem name_withArrival (j : Join) (side : Source) (f : Fragment) :
    (j.withArrival side f).name = f.name := by
  unfold withArrival
  split <;> rfl

/-- A join of two streams at the top is built as a stage that holds both. -/
theorem build_streams :
    (⟨.stream t fs, .stream u gs, kind, on⟩ : Join).build .root =
      (⟨.stream t fs, .stream u gs, kind, on⟩ : Join).buildWindow
        (fun _ => buildStream t fs) (fun _ => buildStream u gs) [] := rfl

theorem keys_of_build_streams {s r : Site}
    (h : (⟨.stream t fs, .stream u gs, kind, on⟩ : Join).build .root s = .ok () r) :
    ∃ c keys, on = some c ∧ JoinKeys.ofCondition c t.scope u.scope = .ok keys := by
  rw [build_streams] at h
  obtain ⟨c, _, _, hon, hwindow, -⟩ := of_buildWindow h
  obtain ⟨keys, hkeys, -⟩ := JoinWindow.ofCondition_eq_ok.mp hwindow
  exact ⟨c, keys, hon, hkeys⟩

theorem build_streams_succeeds {c : JoinCondition} {keys : JoinKeys}
    (hkeys : JoinKeys.ofCondition c t.scope u.scope = .ok keys) (s : Site) :
    ∃ r, (⟨.stream t fs, .stream u gs, kind, some c⟩ : Join).build .root s = .ok () r := by
  rw [build_streams]
  refine buildWindow_succeeds rfl hkeys (fun window name s => ?_) (fun window name s => ?_) s
  · obtain ⟨f, r, h, -⟩ := buildSide_stream_succeeds t fs window name s
    exact ⟨f, r, h⟩
  · obtain ⟨f, r, h, -⟩ := buildSide_stream_succeeds u gs window name s
    exact ⟨f, r, h⟩

/-- Such a join adds one stage, which has the filters of each side in the fragment of the side. -/
theorem of_build_streams {s r : Site}
    (h : (⟨.stream t fs, .stream u gs, kind, on⟩ : Join).build .root s = .ok () r) :
    r.fragment.isBreak = s.fragment.isBreak ∧
      ∃ stage, r.fragment.stages = s.fragment.stages ++ [stage] ∧ stage.filter? = none ∧
        stage.filtersOn .left = (andAll fs).toList ∧
        stage.filtersOn .right = (andAll gs).toList := by
  rw [build_streams] at h
  obtain ⟨_, _, window, -, -, leftName, l, s₁, s₂, hl, -, rightName, r', s₃, s₄, hr, -,
    label, hfragment⟩ := of_buildWindow h
  obtain ⟨l', t₂, hl', hleft⟩ := buildSide_stream_succeeds t fs window leftName s₁
  obtain ⟨r'', t₄, hr', hright⟩ := buildSide_stream_succeeds u gs window rightName s₃
  cases hl.symm.trans hl'
  cases hr.symm.trans hr'
  rw [hfragment]
  refine ⟨rfl, _, rfl, rfl, ?_, ?_⟩
  · simpa only [Stage.filtersOn, stages_withArrival] using hleft
  · simpa only [Stage.filtersOn, stages_withArrival] using hright

end Join

end JoinPlan
