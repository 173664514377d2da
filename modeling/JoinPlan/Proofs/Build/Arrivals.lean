import JoinPlan.Proofs.Build.Growth
import JoinPlan.Proofs.Build.References

/-!
# The names under which rows arrive

Where both sides of a join are named after one table, their rows come from one stream, and each side
has a name under which its own rows arrive: the table behind the alias of the side. So the two names
are the same just when the sides have the same alias or both have none. A side of another join has no
such name.
-/

namespace JoinPlan

/-! ## Names -/

theorem Source.arrivalName_eq_iff {left right : Source} (h : left.tableName = right.tableName) :
    left.arrivalName = right.arrivalName ↔ left.asName? = right.asName? := by
  -- A name without an alias is shorter than one with an alias.
  have hlonger : ∀ qualifier table : String, qualifier ++ "." ++ table ≠ table := by
    intro qualifier table heq
    have hlength := congrArg String.length heq
    simp only [String.length_append] at hlength
    have hdot : ".".length = 1 := rfl
    omega
  unfold arrivalName
  rw [h]
  cases left.asName? with
  | none =>
    cases right.asName? with
    | none => exact iff_of_true rfl rfl
    | some qualifier => exact iff_of_false (hlonger qualifier _).symm nofun
  | some qualifier =>
    cases right.asName? with
    | none => exact iff_of_false (hlonger qualifier _) nofun
    | some other => rw [String.append_left_inj, String.append_left_inj, Option.some_inj]

/-- How a stage that joins the sides of a join names their rows. -/
def Stage.NamesArrivals (j : Join) : Stage → Prop
  | .join _ _ left _ right _ rightDependency =>
    if j.isSelfJoin then
      left.arrival = some j.left.arrivalName ∧ right.arrival = some j.right.arrivalName ∧
        right.arrival = some rightDependency ∧
        (left.arrival = right.arrival ↔ j.left.asName? = j.right.asName?)
    else left.arrival = none ∧ right.arrival = none ∧ rightDependency = j.right.tableName
  | _ => False

/-- Such a stage where the sides are named after one table. -/
theorem Stage.NamesArrivals.of_selfJoin {j : Join} {stage : Stage} (h : stage.NamesArrivals j)
    (hself : j.isSelfJoin = true) :
    ∃ label window left leftStages right rightStages,
      stage = .join label window left leftStages right rightStages j.right.arrivalName ∧
        left.arrival = some j.left.arrivalName ∧ right.arrival = some j.right.arrivalName := by
  cases stage with
  | join label window left leftStages right rightStages rightDependency =>
    rw [NamesArrivals, if_pos hself] at h
    obtain ⟨hleft, hright, hdependency, -⟩ := h
    cases hright.symm.trans hdependency
    exact ⟨label, window, left, leftStages, right, rightStages, rfl, hleft, hright⟩
  | _ => cases h

/-! ## Steps -/

open Build

theorem Fragment.Grows.arrival_eq {f g : Fragment} (h : f.Grows g) : g.arrival = f.arrival := by
  induction h with
  | refl => rfl
  | add _ _ ih | dependOn _ ih | reference _ ih | join _ _ _ _ ih => exact ih

namespace Join

variable {j : Join}

theorem arrival_withArrival (side : Source) (f : Fragment) :
    (j.withArrival side f).arrival = if j.isSelfJoin then some side.arrivalName else f.arrival := by
  unfold withArrival
  split <;> rfl

/-- The stage that is added for a join holds the stages of both sides. -/
theorem namesArrivals_of_buildStage {window : JoinWindow} {left right : Fragment} {s t : Site}
    (hleft : left.arrival = none) (hright : right.arrival = none)
    (h : j.buildStage window left right s = .ok () t) :
    ∃ stage, t.fragment.stages = s.fragment.stages ++ [stage] ∧ stage.NamesArrivals j ∧
      stage.within = stage :: (stagesWithin left.stages ++ stagesWithin right.stages) := by
  obtain ⟨label, hfragment⟩ := addJoin_of_buildStage h
  refine ⟨_, congrArg (·.stages) hfragment, ?_, ?_⟩
  · simp only [Stage.NamesArrivals, rightDependency, arrival_withArrival, hleft, hright]
    split
    · rename_i hself
      have htable : j.left.tableName = j.right.tableName := beq_iff_eq.mp hself
      exact ⟨rfl, rfl, rfl, Option.some_inj.trans (Source.arrivalName_eq_iff htable)⟩
    · exact ⟨rfl, rfl, rfl⟩
  · rw [Stage.within, stages_withArrival, stages_withArrival]

end Join

/-! ## Runs -/

namespace Source

/-- The joins in a source. -/
def joins : Source → List Join
  | .join left right kind on => ⟨left, right, kind, on⟩ :: (left.joins ++ right.joins)
  | _ => []

end Source

/-- The fragment of a side has no name for its rows until it is part of a join. -/
theorem arrival_of_side {src : Source} {place : Place} {role : Role} {s l l' : Site} {name : String}
    {window : JoinWindow} (h : src.Builds place role (s.enter name) l)
    (hemit : Join.buildEmit window l = .ok () l') : l'.fragment.arrival = none := by
  obtain ⟨label, hfragment, -⟩ := of_addStage hemit
  rw [hfragment]
  exact h.grows.arrival_eq

/-- Whether each stage that joins streams, at every depth, names their rows as one of the joins
does. -/
def ArrivalsNamed (joins : List Join) (stages : List Stage) : Prop :=
  ∀ stage ∈ stagesWithin stages, stage.isJoin = true → ∃ j ∈ joins, stage.NamesArrivals j

namespace ArrivalsNamed

variable {joins : List Join} {f : Fragment} {s t : Site}

theorem empty : ArrivalsNamed joins [] := nofun

theorem add_alone {stage : Stage} (h : ArrivalsNamed joins f.stages)
    (halone : stage.isJoin = false) : ArrivalsNamed joins (f.add stage).stages :=
  f.forall_within_add_alone h halone fun hjoin => by simp [halone] at hjoin

theorem of_addStage {parts : List String} {stage : String → Stage}
    (h : ArrivalsNamed joins s.fragment.stages) (hadd : addStage parts stage s = .ok () t)
    (halone : ∀ label, (stage label).isJoin = false) : ArrivalsNamed joins t.fragment.stages := by
  obtain ⟨label, hfragment, -⟩ := Build.of_addStage hadd
  rw [hfragment]
  exact h.add_alone (halone label)

theorem of_buildStream {table : Table} {filters : List Predicate}
    (h : ArrivalsNamed joins s.fragment.stages) (hbuild : buildStream table filters s = .ok () t) :
    ArrivalsNamed joins t.fragment.stages := by
  obtain ⟨stages, hstages, hplain⟩ := plain_of_buildStream hbuild
  intro stage hstage hjoin
  rw [hstages, stagesWithin_append, stagesWithin_of_plain hplain, List.mem_append] at hstage
  rcases hstage with hold | hnew
  · exact h stage hold hjoin
  · rw [Stage.isJoin_of_isPlain (hplain stage hnew)] at hjoin
    cases hjoin

end ArrivalsNamed

namespace Source

/-- A run adds only stages that name rows as the joins in its source do. -/
theorem Builds.arrivalsNamed {src : Source} {place : Place} {role : Role} {s t : Site}
    (h : src.Builds place role s t) : ∀ {joins : List Join}, src.joins ⊆ joins →
      ArrivalsNamed joins s.fragment.stages → ArrivalsNamed joins t.fragment.stages := by
  induction h with
  | stream h => exact fun _ hs => hs.of_buildStream h
  | lateral h => exact fun _ hs => hs.of_addStage h fun _ => rfl
  | lookup _ _ h ih | expand _ _ h ih =>
    intro joins hjoins hs
    have hleft := List.Subset.trans (List.subset_append_left _ _) (List.subset_of_cons_subset hjoins)
    exact (ih hleft hs).of_addStage h fun _ => rfl
  | reference _ _ h =>
    intro joins _ hs
    obtain ⟨name, m, hname, label, m', hlabel, rfl⟩ := Join.buildReference_eq_ok.mp h
    obtain ⟨-, rfl⟩ := freshName_eq_ok.mp hlabel
    rw [← fragment_of_rightName hname] at hs
    exact hs.add_alone rfl
  | @window left right kind on place role _ _ _ _ s s₁ s₂ l l' s₃ r r' t _ _ hwindowName _
      hleftName hleft hleftEmit hname hright hrightEmit hstage ihleft ihright =>
    intro joins hjoins hs
    obtain ⟨hhere, hwithin⟩ := List.cons_subset.mp hjoins
    obtain ⟨hl, hr⟩ := List.append_subset.mp hwithin
    have hleftNamed := (ihleft hl .empty).of_addStage hleftEmit fun _ => rfl
    have hrightNamed := (ihright hr .empty).of_addStage hrightEmit fun _ => rfl
    obtain ⟨stage, hstages, hnames, hstageWithin⟩ := Join.namesArrivals_of_buildStage
      (arrival_of_side hleft hleftEmit) (arrival_of_side hright hrightEmit) hstage
    have hparent : (r'.leave s₃.fragment).fragment.stages = s.fragment.stages :=
      congrArg (·.stages) (fragment_of_sideNames hwindowName hleftName hname)
    rw [hstages, hparent]
    intro inner hinner hjoin
    rw [stagesWithin_append, stagesWithin_singleton, hstageWithin, List.mem_append, List.mem_cons,
      List.mem_append] at hinner
    rcases hinner with hold | rfl | hinner | hinner
    · exact hs inner hold hjoin
    · exact ⟨_, hhere, hnames⟩
    · exact hleftNamed inner hinner hjoin
    · exact hrightNamed inner hinner hjoin

end Source

/-! ## Plans -/

namespace Join

/-- At the top a join of streams is built as a stage. -/
theorem namesArrivals_of_build {j : Join} {s t : Site} (hstream : j.strategy = .stream)
    (h : j.build .root s = .ok () t) :
    ∃ stage, t.fragment.stages = s.fragment.stages ++ [stage] ∧ stage.NamesArrivals j := by
  obtain ⟨left, right, kind, on⟩ := j
  cases Source.builds_of_build h with
  | lookup | expand => cases hstream
  | reference _ hown => cases hown
  | @window _ _ _ _ _ _ _ _ _ _ _ _ _ _ _ s₃ _ r' _ _ _ hwindowName _ hleftName hleft hleftEmit
      hname hright hrightEmit hstage =>
    obtain ⟨stage, hstages, hnames, -⟩ := namesArrivals_of_buildStage
      (arrival_of_side hleft hleftEmit) (arrival_of_side hright hrightEmit) hstage
    have hparent : (r'.leave s₃.fragment).fragment.stages = s.fragment.stages :=
      congrArg (·.stages) (fragment_of_sideNames hwindowName hleftName hname)
    exact ⟨stage, hparent ▸ hstages, hnames⟩

/-- A join of streams at the top adds one stage. Where both sides are named after one table, each has
a name for its rows, and the right side is wired up by its own one. The two names differ just when the
aliases do. Where there are two tables there are no such names, and the right side is wired up by its
table. All this holds of every join of streams within the sides as well. -/
theorem arrivals_of_build {j : Join} {s t : Site} (hstream : j.strategy = .stream)
    (h : j.build .root s = .ok () t) :
    (∃ stage, t.fragment.stages = s.fragment.stages ++ [stage] ∧ stage.NamesArrivals j) ∧
      (s.fragment.stages = [] → ArrivalsNamed j.toSource.joins t.fragment.stages) := by
  refine ⟨namesArrivals_of_build hstream h, fun hempty => ?_⟩
  apply (Source.builds_of_build h).arrivalsNamed (List.Subset.refl _)
  rw [hempty]
  exact .empty

/-- Orders with those that they follow up. -/
def followedOrders : Join where
  left := .stream ⟨"orders", some "l", ["id", "follows"]⟩ []
  right := .stream ⟨"orders", some "r", ["id", "follows"]⟩ []
  kind := .inner
  on := some (sameColumn ⟨some "l", "follows"⟩ ⟨some "r", "id"⟩)

theorem arrivals_of_build_followedOrders :
    ∃ t label window left leftStages right rightStages,
      followedOrders.build .root (Build.start "default" "orders") = .ok () t ∧
      t.fragment.stages = [.join label window left leftStages right rightStages "r.orders"] ∧
      left.arrival = some "l.orders" ∧ right.arrival = some "r.orders" := by
  have hbuildable : followedOrders.toSource.Buildable := .window rfl (.stream _ _) (.stream _ _) rfl
  obtain ⟨t, h⟩ := hbuildable.build_succeeds [] .root (Build.start "default" "orders")
  obtain ⟨⟨stage, hstages, hnames⟩, -⟩ := arrivals_of_build rfl h
  obtain ⟨label, window, left, leftStages, right, rightStages, rfl, hleft, hright⟩ :=
    hnames.of_selfJoin rfl
  exact ⟨t, label, window, left, leftStages, right, rightStages, h, hstages, hleft, hright⟩

/-- Orders without an alias, and orders with their payments, which have none as a whole. -/
def repaidOrders : Join where
  left := .stream ⟨"orders", none, ["id"]⟩ []
  right := .join (.stream ⟨"orders", some "o", ["id"]⟩ [])
    (.stream ⟨"payments", some "p", ["id", "order_id"]⟩ []) .inner
    (some (sameColumn ⟨some "o", "id"⟩ ⟨some "p", "order_id"⟩))
  kind := .inner
  on := some (sameColumn ⟨some "orders", "id"⟩ ⟨some "p", "order_id"⟩)

/-- Rows of both sides arrive under the name of the table. -/
theorem arrivals_alike_repaidOrders :
    ∃ t label window left leftStages right rightStages,
      repaidOrders.build .root (Build.start "default" "orders") = .ok () t ∧
      t.fragment.stages = [.join label window left leftStages right rightStages "orders"] ∧
      left.arrival = some "orders" ∧ right.arrival = some "orders" := by
  have hbuildable : repaidOrders.toSource.Buildable :=
    .window rfl (.stream _ _) (.window rfl (.stream _ _) (.stream _ _) rfl) rfl
  obtain ⟨t, h⟩ := hbuildable.build_succeeds [] .root (Build.start "default" "orders")
  obtain ⟨stage, hstages, hnames⟩ := namesArrivals_of_build rfl h
  obtain ⟨label, window, left, leftStages, right, rightStages, rfl, hleft, hright⟩ :=
    hnames.of_selfJoin rfl
  exact ⟨t, label, window, left, leftStages, right, rightStages, h, hstages, hleft, hright⟩

end Join

end JoinPlan
