import JoinPlan.Proofs.Build.Branches

/-!
# The stages of a join

What is built for a join at the top ends with the stage that joins, and no stage in it, at whatever
depth, calculates anything. Where the sides are tables, stages can come behind it.
-/

namespace JoinPlan

open Build

namespace Stage

/-- Whether a stage puts rows of two sides together. -/
def joinsRows : Stage → Bool
  | .lookup .. | .expand .. | .join .. => true
  | _ => false

/-- Whether a stage calculates items of a select list, or asks for what was calculated. -/
def calculates : Stage → Bool
  | .group .. | .enrich .. | .having .. => true
  | _ => false

end Stage

/-- Whether no stage, at whatever depth, calculates anything. -/
def Uncalculated (stages : List Stage) : Prop :=
  ∀ stage ∈ stagesWithin stages, stage.calculates = false

/-! ## Steps -/

namespace Uncalculated

variable {s t : Site}

theorem nil : Uncalculated [] := nofun

theorem append {front behind : List Stage} (hfront : Uncalculated front)
    (hbehind : Uncalculated behind) : Uncalculated (front ++ behind) := by
  rw [Uncalculated, stagesWithin_append]
  exact List.forall_mem_append.mpr ⟨hfront, hbehind⟩

theorem alone {stage : Stage} (halone : stage.isJoin = false) (h : stage.calculates = false) :
    Uncalculated [stage] := by
  rw [Uncalculated, stagesWithin_singleton, Stage.within_of_not_join halone]
  exact List.forall_mem_singleton.mpr h

theorem of_addStage {parts : List String} {stage : String → Stage}
    (hs : Uncalculated s.fragment.stages) (h : addStage parts stage s = .ok () t)
    (hstage : ∀ label, (stage label).isJoin = false ∧ (stage label).calculates = false) :
    Uncalculated t.fragment.stages := by
  obtain ⟨label, hfragment, -⟩ := Build.of_addStage h
  rw [hfragment]
  exact hs.append (alone (hstage label).1 (hstage label).2)

theorem of_buildStream {table : Table} {filters : List Predicate}
    (hs : Uncalculated s.fragment.stages) (h : buildStream table filters s = .ok () t) :
    Uncalculated t.fragment.stages := by
  obtain ⟨label, label', hstages⟩ := stages_of_buildStream h
  rw [hstages, List.append_cons]
  refine (hs.append (alone rfl rfl)).append ?_
  cases Predicate.andAll filters with
  | none => exact nil
  | some p => exact alone rfl rfl

theorem of_buildStage {j : Join} {window : JoinWindow} {left right : Fragment}
    (hs : Uncalculated s.fragment.stages) (hleft : Uncalculated left.stages)
    (hright : Uncalculated right.stages) (h : j.buildStage window left right s = .ok () t) :
    Uncalculated t.fragment.stages := by
  obtain ⟨label, hfragment⟩ := Join.addJoin_of_buildStage h
  rw [hfragment]
  apply hs.append
  rw [Uncalculated, stagesWithin_singleton, Stage.within, Join.stages_withArrival,
    Join.stages_withArrival]
  exact List.forall_mem_cons.mpr ⟨rfl, List.forall_mem_append.mpr ⟨hleft, hright⟩⟩

end Uncalculated

/-! ## Runs -/

namespace Source

/-- Building a source calculates nothing. -/
theorem Builds.uncalculated {src : Source} {place : Place} {role : Role} {s t : Site}
    (h : src.Builds place role s t) (hs : Uncalculated s.fragment.stages) :
    Uncalculated t.fragment.stages := by
  induction h with
  | stream h => exact hs.of_buildStream h
  | lateral h => exact hs.of_addStage h fun _ => ⟨rfl, rfl⟩
  | lookup _ _ h ih | expand _ _ h ih => exact (ih hs).of_addStage h fun _ => ⟨rfl, rfl⟩
  | reference _ _ h =>
    obtain ⟨name, m, hname, label, m', hlabel, rfl⟩ := Join.buildReference_eq_ok.mp h
    obtain ⟨-, rfl⟩ := freshName_eq_ok.mp hlabel
    rw [← fragment_of_rightName hname] at hs
    exact hs.append (.alone rfl rfl)
  | window _ _ hwindowName _ hleftName _ hleftEmit hname _ hrightEmit hstage ihleft ihright =>
    have hparent := fragment_of_sideNames hwindowName hleftName hname
    rw [← hparent] at hs
    refine Uncalculated.of_buildStage ?_ ?_ ?_ hstage
    · exact hs
    · exact (ihleft .nil).of_addStage hleftEmit fun _ => ⟨rfl, rfl⟩
    · exact (ihright .nil).of_addStage hrightEmit fun _ => ⟨rfl, rfl⟩

end Source

/-! ## Breaks -/

theorem isBreak_of_addStage {parts : List String} {stage : String → Stage} {s t : Site}
    (h : addStage parts stage s = .ok () t) : t.fragment.isBreak = s.fragment.isBreak := by
  obtain ⟨label, hfragment, -⟩ := of_addStage h
  rw [hfragment]
  rfl

theorem isBreak_of_buildStream {table : Table} {filters : List Predicate} {s t : Site}
    (h : buildStream table filters s = .ok () t) : t.fragment.isBreak = s.fragment.isBreak := by
  refine of_buildStream h ?_ ?_
  · intro m hsource
    rw [← isBreak_of_addStage hsource]
    rfl
  · intro m m' p hm hfilter
    exact (isBreak_of_addStage hfilter).trans hm

namespace Source

theorem Builds.isBreak_of_isTable {src : Source} {place : Place} {role : Role} {s t : Site}
    (h : src.Builds place role s t) (htable : src.isTable = true) :
    t.fragment.isBreak = s.fragment.isBreak := by
  cases h with
  | stream h => exact isBreak_of_buildStream h
  | lateral h => exact isBreak_of_addStage h
  | _ => cases htable

end Source

/-! ## Joins at the top -/

namespace Join

variable {j : Join} {s t : Site}

/-- A join at the top ends with the stage that joins, and stages can come behind it. -/
theorem of_build_root (hleft : j.left.isTable = true) (h : j.build .root s = .ok () t) :
    (∃ front joining, t.fragment.stages = front ++ [joining] ∧ joining.joinsRows = true) ∧
      t.fragment.isBreak = s.fragment.isBreak := by
  obtain ⟨left, right, kind, on⟩ := j
  cases Source.builds_of_build h with
  | lookup _ hrows h | expand _ hrows h =>
    obtain ⟨label, hfragment, -⟩ := of_addStage h
    rw [hfragment]
    exact ⟨⟨_, _, rfl, rfl⟩, hrows.isBreak_of_isTable hleft⟩
  | reference _ hown => cases hown
  | window _ _ hwindowName _ hleftName _ _ hname _ _ hstage =>
    obtain ⟨label, hfragment⟩ := addJoin_of_buildStage hstage
    have hparent := fragment_of_sideNames hwindowName hleftName hname
    rw [hfragment]
    exact ⟨⟨_, _, rfl, rfl⟩, congrArg (·.isBreak) hparent⟩

end Join

end JoinPlan
