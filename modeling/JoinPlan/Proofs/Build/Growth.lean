import JoinPlan.Proofs.Build.Names

/-!
# How a build makes a fragment grow

A build puts stages behind those of the fragment at hand, one by one. A stage that joins two streams
holds two fragments, which grew in the same way from empty ones. So what each single step keeps holds
of every fragment in a plan.
-/

namespace JoinPlan

/-! ## Steps of growth -/

namespace Stage

/-- Whether a stage works on the rows of its own fragment alone. -/
def isPlain : Stage → Bool
  | .emit .. | .join .. | .reference .. => false
  | _ => true

def isJoin : Stage → Bool
  | .join .. => true
  | _ => false

theorem isJoin_of_isPlain {stage : Stage} (h : stage.isPlain = true) : stage.isJoin = false := by
  cases stage with
  | join => cases h
  | _ => rfl

theorem within_of_not_join {stage : Stage} (h : stage.isJoin = false) : stage.within = [stage] := by
  cases stage with
  | join => cases h
  | _ => rfl

end Stage

theorem stagesWithin_of_plain : {stages : List Stage} →
    (∀ stage ∈ stages, stage.isPlain = true) → stagesWithin stages = stages
  | [], _ => rfl
  | stage :: stages, h => by
    obtain ⟨hstage, hrest⟩ := List.forall_mem_cons.mp h
    rw [stagesWithin, Stage.within_of_not_join (Stage.isJoin_of_isPlain hstage),
      stagesWithin_of_plain hrest]
    rfl

namespace Fragment

def addJoin (f : Fragment) (label : String) (window : JoinWindow) (left right : Fragment)
    (rightDependency : String) : Fragment :=
  ((f.register (.window window :: left.registered ++ right.registered)).dependOn
    left.dependency).add
      (.join label window left.toHeader left.stages right.toHeader right.stages rightDependency)

end Fragment

/-- A side of a join when its own stages are built: it ends with the window. -/
def Join.endSide (j : Join) (side : Source) (label : String) (window : JoinWindow) (f : Fragment) :
    Fragment :=
  j.withArrival side (f.add (.emit label window))

/-- What a fragment can become by builds. -/
inductive Fragment.Grows : Fragment → Fragment → Prop
  | refl (f : Fragment) : Grows f f
  | add {f g : Fragment} {stage : Stage} (h : Grows f g) (hplain : stage.isPlain = true) :
      Grows f (g.add stage)
  | dependOn {f g : Fragment} {stream : Option String} (h : Grows f g) :
      Grows f (g.dependOn stream)
  | reference {f g : Fragment} {label name : String} (h : Grows f g) :
      Grows f { g.add (.reference label name) with isBreak := true }
  /-- The fragments of both sides grow from empty ones of their own. -/
  | join {f g l r : Fragment} {j : Join} {on : JoinCondition} {window : JoinWindow}
      {windowName leftName rightName leftLabel rightLabel label : String} (h : Grows f g)
      (hwindow : JoinWindow.ofCondition g.space windowName on j.kind j.left.scope j.right.scope =
        .ok window)
      (hleft : Grows (.new g.space leftName) l) (hright : Grows (.new g.space rightName) r) :
      Grows f (g.addJoin label window (j.endSide j.left leftLabel window l)
        (j.endSide j.right rightLabel window r) j.rightDependency)

/-- Whether the fragments that a stage holds grew from empty ones, if it holds any. -/
inductive Stage.Grown (space : String) : Stage → Prop
  | alone {stage : Stage} (h : stage.isJoin = false) : Grown space stage
  | join {l r : Fragment} {j : Join} {on : JoinCondition} {window : JoinWindow}
      {windowName leftName rightName leftLabel rightLabel label : String}
      (hwindow : JoinWindow.ofCondition space windowName on j.kind j.left.scope j.right.scope =
        .ok window)
      (hleft : (Fragment.new space leftName).Grows l)
      (hright : (Fragment.new space rightName).Grows r) :
      Grown space (.join label window
        (j.endSide j.left leftLabel window l).toHeader (j.endSide j.left leftLabel window l).stages
        (j.endSide j.right rightLabel window r).toHeader
        (j.endSide j.right rightLabel window r).stages j.rightDependency)

/-! ## Sides -/

namespace Join

variable {j : Join} {side : Source} {label : String} {window : JoinWindow} {f : Fragment}

@[simp] theorem stages_endSide :
    (j.endSide side label window f).stages = f.stages ++ [.emit label window] :=
  stages_withArrival j side _

@[simp] theorem space_endSide : (j.endSide side label window f).space = f.space := by
  unfold endSide withArrival
  split <;> rfl

@[simp] theorem registered_endSide :
    (j.endSide side label window f).registered = f.registered := by
  unfold endSide withArrival
  split <;> exact List.append_nil f.registered

end Join

/-! ## Stages of a fragment that grew -/

namespace Fragment

variable {f g : Fragment} {stage : Stage} {P : Stage → Prop}

theorem forall_within_of_empty (hempty : f.stages = []) :
    ∀ inner ∈ stagesWithin f.stages, P inner := by
  rw [hempty]
  intro inner hinner
  cases hinner

theorem forall_within_add (hf : ∀ inner ∈ stagesWithin f.stages, P inner)
    (hstage : ∀ inner ∈ stage.within, P inner) :
    ∀ inner ∈ stagesWithin (f.add stage).stages, P inner := by
  rw [stages_add, stagesWithin_append, stagesWithin_singleton]
  exact List.forall_mem_append.mpr ⟨hf, hstage⟩

theorem forall_within_add_alone (hf : ∀ inner ∈ stagesWithin f.stages, P inner)
    (halone : stage.isJoin = false) (hstage : P stage) :
    ∀ inner ∈ stagesWithin (f.add stage).stages, P inner := by
  apply forall_within_add hf
  rw [Stage.within_of_not_join halone]
  exact List.forall_mem_singleton.mpr hstage

theorem forall_within_endSide {j : Join} {side : Source} {label : String} {window : JoinWindow}
    (hf : ∀ inner ∈ stagesWithin f.stages, P inner) (hemit : P (.emit label window)) :
    ∀ inner ∈ stagesWithin (j.endSide side label window f).stages, P inner := by
  rw [Join.stages_endSide]
  exact forall_within_add_alone hf rfl hemit

namespace Grows

theorem trans {k : Fragment} (h : f.Grows g) (h' : g.Grows k) : f.Grows k := by
  induction h' with
  | refl => exact h
  | add _ hplain ih => exact (ih h).add hplain
  | dependOn _ ih => exact (ih h).dependOn
  | reference _ ih => exact (ih h).reference
  | join _ hwindow hleft hright ih => exact (ih h).join hwindow hleft hright

theorem space_eq (h : f.Grows g) : g.space = f.space := by
  induction h with
  | refl => rfl
  | add _ _ ih | dependOn _ ih | reference _ ih | join _ _ _ _ ih => exact ih

theorem grown (h : f.Grows g) (hf : ∀ stage ∈ stagesWithin f.stages, stage.Grown f.space) :
    ∀ stage ∈ stagesWithin g.stages, stage.Grown f.space := by
  -- Both sides of a join start empty, so the induction has all their stages grown without `hf`.
  induction h with
  | refl => exact hf
  | add _ hplain ih =>
    have halone := Stage.isJoin_of_isPlain hplain
    exact forall_within_add_alone (ih hf) halone (.alone halone)
  | dependOn _ ih => exact ih hf
  | reference _ ih => exact forall_within_add_alone (ih hf) rfl (.alone rfl)
  | join h hwindow hleft hright ih ihleft ihright =>
    rw [h.space_eq] at hwindow hleft hright ihleft ihright
    apply forall_within_add (ih hf)
    rw [Stage.within, List.forall_mem_cons, List.forall_mem_append]
    exact ⟨.join hwindow hleft hright,
      forall_within_endSide (ihleft (forall_within_of_empty rfl)) (.alone rfl),
      forall_within_endSide (ihright (forall_within_of_empty rfl)) (.alone rfl)⟩

end Grows

end Fragment

/-! ## Runs -/

open Build

theorem grows_of_addStage {f : Fragment} {parts : List String} {stage : String → Stage} {s t : Site}
    (hf : f.Grows s.fragment) (h : addStage parts stage s = .ok () t)
    (hplain : ∀ label, (stage label).isPlain = true) : f.Grows t.fragment := by
  obtain ⟨label, hfragment, -⟩ := of_addStage h
  rw [hfragment]
  exact hf.add (hplain label)

/-- A stream is read by plain stages. -/
theorem plain_of_buildStream {t : Table} {filters : List Predicate} {s r : Site}
    (h : buildStream t filters s = .ok () r) :
    ∃ stages, r.fragment.stages = s.fragment.stages ++ stages ∧
      ∀ stage ∈ stages, stage.isPlain = true := by
  obtain ⟨label, label', hstages⟩ := stages_of_buildStream h
  refine ⟨_, hstages, List.forall_mem_cons.mpr ⟨rfl, fun stage hstage => ?_⟩⟩
  obtain ⟨p, -, rfl⟩ := Option.map_eq_some_iff.mp (Option.mem_toList.mp hstage)
  rfl

theorem grows_of_buildStream {t : Table} {filters : List Predicate} {s r : Site}
    (h : buildStream t filters s = .ok () r) : s.fragment.Grows r.fragment := by
  refine of_buildStream h ?_ ?_
  · intro m hsource
    exact (grows_of_addStage (.refl _) hsource fun _ => rfl).dependOn
  · intro m m' p hm hfilter
    exact grows_of_addStage hm hfilter fun _ => rfl

theorem Join.addJoin_of_buildStage {j : Join} {window : JoinWindow} {left right : Fragment}
    {s t : Site} (h : j.buildStage window left right s = .ok () t) :
    ∃ label, t.fragment = s.fragment.addJoin label window (j.withArrival j.left left)
      (j.withArrival j.right right) j.rightDependency := by
  rw [buildStage_eq] at h
  obtain ⟨label, hfragment, -⟩ := of_addStage h
  exact ⟨label, hfragment⟩

theorem Source.Builds.grows {src : Source} {place : Place} {role : Role} {s t : Site}
    (h : src.Builds place role s t) : s.fragment.Grows t.fragment := by
  induction h with
  | stream h => exact grows_of_buildStream h
  | lateral h => exact grows_of_addStage (.refl _) h fun _ => rfl
  | lookup _ _ h ih | expand _ _ h ih => exact grows_of_addStage ih h fun _ => rfl
  | @reference _ _ _ _ _ _ s _ _ _ h =>
    obtain ⟨name, m, hname, label, m', hlabel, rfl⟩ := Join.buildReference_eq_ok.mp h
    obtain ⟨-, rfl⟩ := freshName_eq_ok.mp hlabel
    have hm : s.fragment.Grows m.fragment := fragment_of_rightName hname ▸ .refl s.fragment
    exact hm.reference
  | @window _ _ _ _ _ _ _ _ _ _ s s₁ s₂ l l' s₃ r r' _ _ _ hwindowName hwindow hleftName _
      hleftEmit hname _ hrightEmit hstage ihleft ihright =>
    -- Until the stage itself is added, the fragment at hand is as it was.
    have h₂ : s₂.fragment = s.fragment :=
      (fragment_of_freshLabel hleftName).trans (fragment_of_freshLabel hwindowName)
    have h₃ : s₃.fragment = s.fragment := (fragment_of_rightName hname).trans h₂
    obtain ⟨leftLabel, hleft, -⟩ := of_addStage hleftEmit
    obtain ⟨rightLabel, hright, -⟩ := of_addStage hrightEmit
    obtain ⟨label, hfragment⟩ := Join.addJoin_of_buildStage hstage
    rw [hfragment, hleft, hright]
    rw [Site.enter, h₂] at ihleft
    rw [Site.enter, h₃] at ihright
    have hparent : (r'.leave s₃.fragment).fragment = s.fragment := h₃
    rw [hparent]
    exact .join (.refl _) hwindow ihleft ihright

end JoinPlan
