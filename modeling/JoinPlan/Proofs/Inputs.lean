import JoinPlan.Proofs.Build.Sources
import JoinPlan.Proofs.Statement.ConditionColumns

/-!
# Where the rows of a fragment come from

A fragment has an input when it starts by reading a stream or joining two, and depends on a stream
that is read in it. Its rows come from the first table of its source, so it has one just when that
table is a stream. A table function in the first place gives rows for none, and nothing refuses it
there.
-/

namespace JoinPlan

/-! ## Fragments -/

/-- The fragments of the two sides of a stage, if it joins streams. -/
def Stage.sides : Stage → List Fragment
  | .join _ _ left leftStages right rightStages _ => [⟨left, leftStages⟩, ⟨right, rightStages⟩]
  | _ => []

/-- The fragments of the sides of some stages, at every depth. -/
def sidesWithin (stages : List Stage) : List Fragment :=
  (stagesWithin stages).flatMap Stage.sides

/-- The fragments of a plan: its own and those within it. -/
def Fragment.fragments (f : Fragment) : List Fragment :=
  f :: sidesWithin f.stages

theorem sidesWithin_append (as bs : List Stage) :
    sidesWithin (as ++ bs) = sidesWithin as ++ sidesWithin bs := by
  rw [sidesWithin, stagesWithin_append, List.flatMap_append]
  rfl

theorem sidesWithin_join (label : String) (window : JoinWindow) (left : Header)
    (leftStages : List Stage) (right : Header) (rightStages : List Stage)
    (rightDependency : String) :
    sidesWithin [.join label window left leftStages right rightStages rightDependency] =
      ⟨left, leftStages⟩ :: ⟨right, rightStages⟩ ::
        (sidesWithin leftStages ++ sidesWithin rightStages) := by
  rw [sidesWithin, stagesWithin_singleton, Stage.within, List.flatMap_cons, List.flatMap_append]
  rfl

theorem Stage.sides_of_not_join {stage : Stage} (h : stage.isJoin = false) : stage.sides = [] := by
  cases stage with
  | join => cases h
  | _ => rfl

theorem sidesWithin_of_plain {stages : List Stage}
    (h : ∀ stage ∈ stages, stage.isPlain = true) : sidesWithin stages = [] := by
  rw [sidesWithin, stagesWithin_of_plain h, List.flatMap_eq_nil_iff]
  exact fun stage hstage => Stage.sides_of_not_join (Stage.isJoin_of_isPlain (h stage hstage))

/-! ## Inputs -/

/-- Whether rows come from a stage that has none before it. -/
def Stage.givesRows : Stage → Bool
  | .source .. | .join .. => true
  | _ => false

structure Fragment.HasInput (f : Fragment) : Prop where
  starts : f.stages.head?.any Stage.givesRows = true
  depends : ∃ stream ∈ f.dependency, stream ∈ f.streams

theorem head?_any_append {p : Stage → Bool} {as bs : List Stage} (h : as.head?.any p = true) :
    (as ++ bs).head?.any p = true := by
  cases as with
  | nil => cases h
  | cons => exact h

namespace Fragment

variable {f g : Fragment}

theorem hasInput_congr (hstages : g.stages = f.stages) (hdependency : g.dependency = f.dependency) :
    g.HasInput ↔ f.HasInput := by
  have hstreams : g.streams = f.streams := congrArg streamsWithin hstages
  constructor
  · rintro ⟨hstarts, hdepends⟩
    exact ⟨hstages ▸ hstarts, by rwa [hdependency, hstreams] at hdepends⟩
  · rintro ⟨hstarts, hdepends⟩
    exact ⟨hstages ▸ hstarts, by rwa [hdependency, hstreams]⟩

/-- Stages behind what has an input take nothing from it. -/
theorem HasInput.append {behind : List Stage} (h : f.HasInput)
    (hstages : g.stages = f.stages ++ behind) (hdependency : g.dependency = f.dependency) :
    g.HasInput where
  starts := hstages ▸ head?_any_append h.starts
  depends := by
    obtain ⟨stream, hstream, hmem⟩ := h.depends
    refine ⟨stream, hdependency ▸ hstream, ?_⟩
    rw [streams, hstages, streamsWithin_append]
    exact List.mem_append_left _ hmem

end Fragment

/-! ## Sources -/

namespace Source

/-- The sources that are built in fragments of their own: the sides of joins of streams. -/
def branches : Source → List Source
  | .join left right _ _ =>
    match right.strategy with
    | .stream => left :: right :: (left.branches ++ right.branches)
    | .dimension | .lateral => left.branches
  | _ => []

theorem branches_of_stream {left right : Source} {kind : JoinKind} {on : Option JoinCondition}
    (h : right.strategy = .stream) :
    (Source.join left right kind on).branches =
      left :: right :: (left.branches ++ right.branches) := by
  rw [branches, h]

theorem leftmost_of_isTable {src : Source} (h : src.isTable = true) : src.leftmost = src := by
  cases src with
  | join => cases h
  | _ => rfl

theorem tableName_mem_streams {src : Source} (h : src.leftmost.strategy = .stream) :
    src.tableName ∈ src.streams.keys := by
  induction src with
  | stream t filters => exact NameSet.mem_keys_ofList.mpr (List.mem_singleton_self _)
  | dimension | lateral => cases h
  | join left right kind on ihleft ihright =>
    rw [streams]
    cases right.strategy with
    | stream => exact NameSet.mem_keys_union.mpr (Or.inl (ihleft h))
    | dimension | lateral => exact ihleft h

end Source

/-! ## Steps -/

open Build

theorem Join.sidesWithin_of_buildStage {j : Join} {window : JoinWindow} {left right : Fragment}
    {s t : Site} (h : j.buildStage window left right s = .ok () t) :
    sidesWithin t.fragment.stages = sidesWithin s.fragment.stages ++
      j.withArrival j.left left :: j.withArrival j.right right ::
        (sidesWithin left.stages ++ sidesWithin right.stages) := by
  obtain ⟨label, hfragment⟩ := Join.addJoin_of_buildStage h
  have hstages : ∀ side f, sidesWithin (j.withArrival side f).stages = sidesWithin f.stages :=
    fun side f => congrArg sidesWithin (j.stages_withArrival side f)
  rw [hfragment, Fragment.addJoin, Fragment.stages_add, sidesWithin_append, sidesWithin_join,
    hstages, hstages]
  rfl

theorem sidesWithin_of_addStage {parts : List String} {stage : String → Stage} {s t : Site}
    (h : addStage parts stage s = .ok () t) (hnone : ∀ label, sidesWithin [stage label] = []) :
    sidesWithin t.fragment.stages = sidesWithin s.fragment.stages := by
  obtain ⟨label, hfragment, -⟩ := of_addStage h
  rw [hfragment, Fragment.stages_add, sidesWithin_append, hnone, List.append_nil]

theorem sidesWithin_of_buildStream {t : Table} {filters : List Predicate} {s r : Site}
    (h : buildStream t filters s = .ok () r) :
    sidesWithin r.fragment.stages = sidesWithin s.fragment.stages := by
  obtain ⟨stages, hstages, hplain⟩ := plain_of_buildStream h
  rw [hstages, sidesWithin_append, sidesWithin_of_plain hplain, List.append_nil]

theorem stages_of_addStage {parts : List String} {stage : String → Stage} {s t : Site}
    (h : addStage parts stage s = .ok () t) :
    ∃ label, t.fragment.stages = s.fragment.stages ++ [stage label] := by
  obtain ⟨label, hfragment, -⟩ := of_addStage h
  exact ⟨label, congrArg (·.stages) hfragment⟩

/-! ## Runs -/

namespace Source

variable {src : Source} {place : Place} {role : Role} {s t : Site}

/-- A run without references starts with a stage that gives rows, if its first table is a stream. -/
theorem Builds.starts (h : src.Builds place role s t) (hnone : t.fragment.references = [])
    (hfirst : src.leftmost.strategy = .stream) (hempty : s.fragment.stages = []) :
    t.fragment.stages.head?.any Stage.givesRows = true := by
  induction h with
  | stream h =>
    obtain ⟨label, label', hstages⟩ := stages_of_buildStream h
    rw [hstages, hempty]
    rfl
  | lateral h => cases hfirst
  | lookup _ _ h ih | expand _ _ h ih =>
    obtain ⟨label, hstages⟩ := stages_of_addStage h
    rw [references_of_addStage h fun _ => rfl] at hnone
    rw [hstages]
    exact head?_any_append (ih hnone hfirst hempty)
  | reference _ _ h => exact absurd hnone (Join.references_of_buildReference h)
  | @window _ _ _ _ _ _ _ _ _ _ _ _ _ _ _ s₃ _ r' _ _ _ hwindowName _ hleftName _ _ hname _ _
      hstage =>
    obtain ⟨label, hfragment⟩ := Join.addJoin_of_buildStage hstage
    have hparent : (r'.leave s₃.fragment).fragment.stages = [] :=
      (congrArg (·.stages) (fragment_of_sideNames hwindowName hleftName hname)).trans hempty
    rw [hfragment, Fragment.addJoin, Fragment.stages_add, Fragment.stages_dependOn]
    show ((r'.leave s₃.fragment).fragment.stages ++ [_]).head?.any _ = true
    rw [hparent]
    rfl

/-- A fragment whose first table is no stream is not made to depend on any. -/
theorem Builds.dependency_of_no_stream (h : src.Builds place role s t)
    (hfirst : src.leftmost.strategy ≠ .stream) :
    t.fragment.dependency = s.fragment.dependency := by
  induction h with
  | stream => exact absurd rfl hfirst
  | lateral h => exact (streams_of_addStage h fun _ => rfl).2
  | lookup _ _ h ih | expand _ _ h ih =>
    rw [(streams_of_addStage h fun _ => rfl).2]
    exact ih hfirst
  | reference _ _ h =>
    obtain ⟨name, m, hname, label, m', hlabel, rfl⟩ := Join.buildReference_eq_ok.mp h
    obtain ⟨-, rfl⟩ := freshName_eq_ok.mp hlabel
    exact congrArg (·.dependency) (fragment_of_rightName hname)
  | @window left _ _ _ _ _ _ _ _ _ s _ _ l l' s₃ _ r' _ _ _ hwindowName _ hleftName _ hleftEmit
      hname _ _ hstage ihleft _ =>
    have hleft : l'.fragment.dependency = none :=
      (streams_of_addStage hleftEmit fun _ => rfl).2.trans (ihleft hfirst)
    have hparent : (r'.leave s₃.fragment).fragment.dependency = s.fragment.dependency :=
      congrArg (·.dependency) (fragment_of_sideNames hwindowName hleftName hname)
    rw [(Join.streams_of_buildStage hstage).2, hleft, hparent, Option.or_none]

/-- A fragment without references has an input just when its first table is a stream. -/
theorem Builds.hasInput_iff (h : src.Builds place role s t) (hnone : t.fragment.references = [])
    (hempty : s.fragment.stages = []) (hdependency : s.fragment.dependency = none) :
    t.fragment.HasInput ↔ src.leftmost.strategy = .stream := by
  constructor
  · rintro ⟨-, stream, hstream, -⟩
    by_contra hfirst
    rw [h.dependency_of_no_stream hfirst, hdependency] at hstream
    cases hstream
  · intro hfirst
    have hdepends : t.fragment.dependency = some src.tableName := by
      rw [h.dependency_eq hnone hfirst, hdependency]
      rfl
    exact ⟨h.starts hnone hfirst hempty, _, hdepends,
      (h.mem_streams hnone _).mpr (Or.inr (tableName_mem_streams hfirst))⟩

/-- The fragment of a side has an input just when the side starts with a stream. -/
theorem Builds.hasInput_side_iff {space name : String} {l l' : Site} {window : JoinWindow}
    {j : Join} {side : Source} (h : src.Builds place role s l)
    (hs : s.fragment = .new space name) (hemit : Join.buildEmit window l = .ok () l')
    (hnone : l.fragment.references = []) :
    (j.withArrival side l'.fragment).HasInput ↔ src.leftmost.strategy = .stream := by
  have hside := h.hasInput_iff hnone (by rw [hs]; rfl) (by rw [hs]; rfl)
  obtain ⟨label, hstages⟩ := stages_of_addStage hemit
  have hdependency := (streams_of_addStage hemit fun _ => rfl).2
  rw [Fragment.hasInput_congr (Join.stages_withArrival j side _)
    (Join.dependency_withArrival j side _)]
  refine ⟨fun hinput => ?_, fun hfirst => (hside.mpr hfirst).append hstages hdependency⟩
  by_contra hfirst
  obtain ⟨-, stream, hstream, -⟩ := hinput
  rw [hdependency, h.dependency_of_no_stream hfirst, hs] at hstream
  cases hstream

/-- The fragments within one that is built without references have inputs just when each of their
sources starts with a stream. -/
theorem Builds.hasInput_sides_iff (h : src.Builds place role s t)
    (hnone : t.fragment.references = []) :
    (∀ f ∈ sidesWithin t.fragment.stages, f.HasInput) ↔
      (∀ f ∈ sidesWithin s.fragment.stages, f.HasInput) ∧
        ∀ b ∈ src.branches, b.leftmost.strategy = .stream := by
  induction h with
  | stream h => simp [sidesWithin_of_buildStream h, branches]
  | lateral h => simp [sidesWithin_of_addStage h fun _ => rfl, branches]
  | lookup _ _ h ih | expand _ _ h ih =>
    rw [references_of_addStage h fun _ => rfl] at hnone
    rw [sidesWithin_of_addStage h fun _ => rfl, ih hnone]
    rfl
  | reference _ _ h => exact absurd hnone (Join.references_of_buildReference h)
  | @window left right kind on place role _ _ _ _ s s₁ s₂ l l' s₃ r r' t hstream _ hwindowName _
      hleftName hleft hleftEmit hname hright hrightEmit hstage ihleft ihright =>
    rw [Join.references_of_buildStage hstage, List.append_eq_nil_iff, List.append_eq_nil_iff,
      references_of_addStage hleftEmit fun _ => rfl,
      references_of_addStage hrightEmit fun _ => rfl] at hnone
    obtain ⟨-, hleftNone, hrightNone⟩ := hnone
    have hparent : sidesWithin (r'.leave s₃.fragment).fragment.stages =
        sidesWithin s.fragment.stages :=
      congrArg (sidesWithin ·.stages) (fragment_of_sideNames hwindowName hleftName hname)
    have hl : (∀ f ∈ sidesWithin l'.fragment.stages, f.HasInput) ↔
        ∀ b ∈ left.branches, b.leftmost.strategy = .stream := by
      rw [sidesWithin_of_addStage hleftEmit fun _ => rfl, ihleft hleftNone]
      exact and_iff_right nofun
    have hr : (∀ f ∈ sidesWithin r'.fragment.stages, f.HasInput) ↔
        ∀ b ∈ right.branches, b.leftmost.strategy = .stream := by
      rw [sidesWithin_of_addStage hrightEmit fun _ => rfl, ihright hrightNone]
      exact and_iff_right nofun
    rw [Join.sidesWithin_of_buildStage hstage, hparent, branches_of_stream hstream]
    simp only [List.forall_mem_append, List.forall_mem_cons, hl, hr,
      hleft.hasInput_side_iff rfl hleftEmit hleftNone,
      hright.hasInput_side_iff rfl hrightEmit hrightNone]

/-- All fragments of a plan without references have inputs just when its source and those of its
sides, at every depth, start with streams. -/
theorem hasInput_fragments_iff (hempty : s.fragment.stages = [])
    (hdependency : s.fragment.dependency = none) (h : src.build place role s = .ok () t)
    (hnone : t.fragment.references = []) :
    (∀ f ∈ t.fragment.fragments, f.HasInput) ↔
      ∀ b ∈ src :: src.branches, b.leftmost.strategy = .stream := by
  have hbuilds := builds_of_build h
  have hsides : (∀ f ∈ sidesWithin t.fragment.stages, f.HasInput) ↔
      ∀ b ∈ src.branches, b.leftmost.strategy = .stream := by
    rw [hbuilds.hasInput_sides_iff hnone, hempty]
    exact and_iff_right nofun
  rw [Fragment.fragments, List.forall_mem_cons, List.forall_mem_cons, hsides,
    hbuilds.hasInput_iff hnone hempty hdependency]

end Source

/-! ## Statements -/

namespace Source

theorem hasSelfJoinOnRight_of_isTable {src : Source} (h : src.isTable = true) :
    src.hasSelfJoinOnRight = false ∧ src.isSelfJoin = false := by
  cases src with
  | join => cases h
  | _ => exact ⟨rfl, rfl⟩

/-- In a join of two tables all sources start with streams when the left table is one. -/
theorem branches_of_isTable {left right : Source} {kind : JoinKind} {on : Option JoinCondition}
    (hleft : left.isTable = true) (hright : right.isTable = true) :
    (∀ b ∈ Source.join left right kind on :: (Source.join left right kind on).branches,
        b.leftmost.strategy = .stream) ↔
      left.strategy = .stream := by
  have hfirst : (Source.join left right kind on).leftmost = left := leftmost_of_isTable hleft
  have hnone : ∀ {src : Source}, src.isTable = true → src.branches = [] := by
    intro src hsrc
    cases src with
    | join => cases hsrc
    | _ => rfl
  rw [List.forall_mem_cons, hfirst]
  refine ⟨fun h => h.1, fun h => ⟨h, ?_⟩⟩
  cases hstream : right.strategy with
  | stream =>
    rw [branches_of_stream hstream, hnone hleft, hnone hright, List.append_nil,
      List.forall_mem_cons, List.forall_mem_singleton, leftmost_of_isTable hleft,
      leftmost_of_isTable hright]
    exact ⟨h, hstream⟩
  | dimension | lateral =>
    rw [branches, hstream, hnone hleft]
    exact nofun

end Source

/-- The kind of a table in the catalog is that of its source. -/
theorem TableRef.kind_of_source {t : TableRef} {catalog : Catalog} {source : Source}
    (h : t.source catalog = .ok source) :
    (source.strategy = .stream → ∃ columns, catalog.get? t.name = some ⟨.stream, columns⟩) ∧
      (source.strategy = .lateral → ∃ function args columns,
        catalog.get? t.name = some ⟨.lateral function args, columns⟩) := by
  unfold TableRef.source Source.ofCatalog? at h
  cases hentry : catalog.get? t.name with
  | none => simp [hentry] at h
  | some entry =>
    obtain ⟨kind, columns⟩ := entry
    cases kind with
    | stream | dimension | lateral =>
      simp [hentry] at h
      subst h
      simp [Source.strategy]

namespace Statement

variable {s : Statement} {catalog : Catalog} {settings : Settings}

/-- What stands behind the join of a plan changes nothing in the inputs of its fragments. -/
theorem hasInput_of_gains {m t : Site} (h : m.Gains t)
    (hinputs : ∀ f ∈ m.fragment.fragments, f.HasInput) :
    ∀ f ∈ t.fragment.fragments, f.HasInput := by
  obtain ⟨behind, hstages, hplain⟩ := h.stages_eq
  have hsides : sidesWithin t.fragment.stages = sidesWithin m.fragment.stages := by
    rw [hstages, sidesWithin_append, sidesWithin_of_plain hplain, List.append_nil]
  rw [Fragment.fragments, List.forall_mem_cons] at hinputs ⊢
  rw [hsides]
  exact ⟨hinputs.1.append hstages h.dependency_eq, hinputs.2⟩

/-- Where the first table of a statement is a stream, all fragments of its plan have inputs. Where
it is a table function, the root depends on no stream. No plan has a dimension table there. -/
theorem inputs_of_compile {plan : Plan} (h : s.compile catalog settings .root = .ok plan) :
    (∃ columns, catalog.get? s.query.source.name = some ⟨.stream, columns⟩) ∧
        (∀ f ∈ plan.root.fragments, f.HasInput) ∨
      (∃ function args columns,
        catalog.get? s.query.source.name = some ⟨.lateral function args, columns⟩) ∧
        plan.root.dependency = none ∧ ¬plan.root.HasInput := by
  obtain ⟨-, j, hj, placed, filter, hplaced, site, hsite, rfl⟩ := compile_eq_ok.mp h
  obtain ⟨m, hbuild, hbehind⟩ := seq_eq_ok.mp hsite
  have hgains := gains_of_unlessBreak hbehind
  obtain ⟨hleft, hright, -⟩ := tables_of_placedJoin hj hplaced
  obtain ⟨hstream, hlateral⟩ := TableRef.kind_of_source (JoinQuery.of_join hj).1
  have hstrategy : placed.left.strategy = j.left.strategy := by
    obtain ⟨ls, rs, rfl⟩ := placedJoin_eq_withFilters hplaced
    exact Source.strategy_withFilters j.left ls
  obtain ⟨left, right, kind, on⟩ := placed
  have hnone : m.fragment.references = [] := by
    refine (Join.references_of_build rfl hbuild).mpr ?_
    obtain ⟨hleftNone, -⟩ := Source.hasSelfJoinOnRight_of_isTable hleft
    obtain ⟨hrightNone, hself⟩ := Source.hasSelfJoinOnRight_of_isTable hright
    simp only [Join.toSource, Source.hasSelfJoinOnRight, hleftNone, hrightNone, hself]
    rfl
  have hinputs := (Source.hasInput_fragments_iff rfl rfl hbuild hnone).trans
    (Source.branches_of_isTable hleft hright)
  cases hkind : j.left.strategy with
  | stream =>
    left
    exact ⟨hstream hkind, hasInput_of_gains hgains (hinputs.mpr (hstrategy.trans hkind))⟩
  | lateral =>
    right
    have hbuilds := Source.builds_of_build hbuild
    have hfirst : (Join.toSource ⟨left, right, kind, on⟩).leftmost.strategy ≠ .stream := by
      show left.leftmost.strategy ≠ .stream
      rw [Source.leftmost_of_isTable hleft, hstrategy, hkind]
      decide
    have hdependency : site.fragment.dependency = none :=
      hgains.dependency_eq.trans (hbuilds.dependency_of_no_stream hfirst)
    refine ⟨hlateral hkind, hdependency, ?_⟩
    rintro ⟨-, stream, hdepends, -⟩
    cases hdependency.symm.trans hdepends
  | dimension =>
    exact absurd (hstrategy.trans hkind) (Join.strategy_left_of_build hbuild)

open GroupedQuery in
/-- The root and the fragments of orders and payments have inputs. -/
theorem inputs_of_compile_paidOrders :
    ∃ plan, (Statement.grouped (paidOrders .inner paidById)).compile ledger .default .root =
        .ok plan ∧
      plan.root.fragments.length = 3 ∧ ∀ f ∈ plan.root.fragments, f.HasInput := by
  obtain ⟨plan, hplan, hlength⟩ := Outcome.toOption_map_eq_some.mp (show ((Statement.grouped
    (paidOrders .inner paidById)).compile ledger .default .root).toOption.map
      (·.root.fragments.length) = some 3 by decide +kernel)
  obtain ⟨-, hinputs⟩ | ⟨⟨_, _, _, hlateral⟩, -⟩ := inputs_of_compile hplan
  · exact ⟨plan, hplan, hlength, hinputs⟩
  · cases hlateral

/-- The words of notes, which a table function gives, and orders with notes. -/
def notes : Catalog :=
  Dict.ofList [("words", ⟨.lateral "split" ["note"], ["word"]⟩),
    ("orders", ⟨.stream, ["id", "note"]⟩)]

/-- Words with the orders whose note is such a word. -/
def notedOrders : JoinQuery where
  content := ""
  source := ⟨"words", some "w"⟩
  joined := ⟨"orders", some "o"⟩
  kind := .inner
  on := some (Join.sameColumn ⟨some "w", "word"⟩ ⟨some "o", "note"⟩)
  items := []

/-- The root joins the orders with the words of no notes, and depends on no stream. -/
theorem inputs_missing_notedOrders :
    ∃ plan, (Statement.join notedOrders).compile notes .default .root = .ok plan ∧
      plan.root.fragments.map (fun f => (f.stages.head?.map Stage.kindName, f.dependency)) =
        [(some "Join", none), (some "LateralJoin", none), (some "Source", some "orders")] ∧
      ¬∀ f ∈ plan.root.fragments, f.HasInput := by
  obtain ⟨plan, hplan, hfragments⟩ := Outcome.toOption_map_eq_some.mp (show ((Statement.join
    notedOrders).compile notes .default .root).toOption.map (fun plan =>
      plan.root.fragments.map fun f => (f.stages.head?.map Stage.kindName, f.dependency)) =
        some [(some "Join", none), (some "LateralJoin", none), (some "Source", some "orders")] by
        decide +kernel)
  refine ⟨plan, hplan, hfragments, fun hinputs => ?_⟩
  obtain ⟨stream, hstream, -⟩ := (hinputs plan.root List.mem_cons_self).depends
  rw [(Prod.mk.inj (List.cons.inj hfragments).1).2] at hstream
  cases hstream

end Statement

end JoinPlan
