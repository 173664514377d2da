import JoinPlan.Proofs.Build.Growth
import JoinPlan.Proofs.Build.References

/-!
# The sides of a join

A stage that joins two streams holds a fragment for each side. Both sides hand their rows to the
window of the stage, last of all and nowhere before, and the window matches the rows by pairs of keys.
This holds at every depth of a plan, and all of it is in the space of the plan.
-/

namespace JoinPlan

/-! ## Joins that fit together -/

def Stage.isEmit : Stage → Bool
  | .emit .. => true
  | _ => false

/-- Whether stages hand rows to a window, last of all and nowhere before. -/
def EndsIn (window : JoinWindow) (stages : List Stage) : Prop :=
  ∃ before label, stages = before ++ [.emit label window] ∧
    ∀ stage ∈ before, stage.isEmit = false

/-- Whether the sides of a stage meet in its window, if it joins two streams. -/
def Stage.MeetsInWindow (space : String) : Stage → Prop
  | .join _ window left leftStages right rightStages _ =>
    EndsIn window leftStages ∧ EndsIn window rightStages ∧ window.Keyed ∧
      left.space = space ∧ right.space = space ∧ window.space = space
  | _ => True

namespace Fragment.Grows

variable {f g : Fragment}

theorem isEmit_eq_false (h : f.Grows g) (hf : ∀ stage ∈ f.stages, stage.isEmit = false) :
    ∀ stage ∈ g.stages, stage.isEmit = false := by
  induction h with
  | refl => exact hf
  | @add _ _ stage _ hplain ih =>
    have hstage : stage.isEmit = false := by
      cases stage with
      | emit => cases hplain
      | _ => rfl
    exact List.forall_mem_append.mpr ⟨ih hf, List.forall_mem_singleton.mpr hstage⟩
  | dependOn _ ih => exact ih hf
  | reference _ ih | join _ _ _ _ ih =>
    exact List.forall_mem_append.mpr ⟨ih hf, List.forall_mem_singleton.mpr rfl⟩

/-- Before the window comes what grew from an empty fragment. -/
theorem endsIn {j : Join} {side : Source} {space name label : String} {window : JoinWindow}
    (h : (Fragment.new space name).Grows f) :
    EndsIn window (j.endSide side label window f).stages :=
  ⟨f.stages, label, Join.stages_endSide, h.isEmit_eq_false nofun⟩

end Fragment.Grows

theorem Stage.Grown.meetsInWindow {space : String} {stage : Stage} (h : stage.Grown space) :
    stage.MeetsInWindow space := by
  cases h with
  | alone halone =>
    cases stage with
    | join => cases halone
    | _ => trivial
  | join hwindow hleft hright =>
    have hspace : ∀ {j : Join} {side : Source} {f : Fragment} {name label : String}
        {window : JoinWindow}, (Fragment.new space name).Grows f →
          (j.endSide side label window f).space = space :=
      fun hf => Join.space_endSide.trans hf.space_eq
    have hkeyed := JoinWindow.keyed_of_ofCondition hwindow
    obtain ⟨keys, -, rfl⟩ := JoinWindow.ofCondition_eq_ok.mp hwindow
    exact ⟨hleft.endsIn, hright.endsIn, hkeyed, hspace hleft, hspace hright, rfl⟩

/-! ## Plans -/

namespace Join

/-- Wherever a plan joins two streams, the fragments of both sides end in one window, which has keys
for both. The plan has one space throughout. -/
theorem sides_meet_in_window {j : Join} {role : Role} {s t : Site} (hempty : s.fragment.stages = [])
    (h : j.build role s = .ok () t) :
    t.fragment.space = s.fragment.space ∧
      ∀ stage ∈ stagesWithin t.fragment.stages, stage.MeetsInWindow s.fragment.space := by
  have hgrows := (Source.builds_of_build h).grows
  have hgrown := hgrows.grown (Fragment.forall_within_of_empty hempty)
  exact ⟨hgrows.space_eq, fun stage hstage => (hgrown stage hstage).meetsInWindow⟩

/-- Open orders, and the customers with their regions. -/
def regionalOrders : Join where
  left := .stream ⟨"orders", none, ["id", "customer", "open"]⟩
    [.compare (.column (.bare "open")) .eq (.literal (.scalar "true" (.bool true)))]
  right := .join (.stream ⟨"customers", some "c", ["id", "region"]⟩ [])
    (.stream ⟨"regions", some "r", ["id"]⟩ []) .left
    (some (sameColumn ⟨some "c", "region"⟩ ⟨some "r", "id"⟩))
  kind := .inner
  on := some (sameColumn ⟨some "orders", "customer"⟩ ⟨some "c", "id"⟩)

theorem regionalOrders_builds (role : Role) (s : Site) :
    ∃ t, regionalOrders.build role s = .ok () t := by
  have hbuildable : regionalOrders.toSource.Buildable :=
    .window rfl (.stream _ _) (.window rfl (.stream _ _) (.stream _ _) rfl) rfl
  exact hbuildable.build_succeeds [] role s

/-- The customers are joined with their regions within the right side of another join. -/
theorem sides_meet_in_window_regionalOrders :
    ∃ t, regionalOrders.build .root (Build.start "default" "orders") = .ok () t ∧
      (stagesWithin t.fragment.stages).countP Stage.isJoin = 2 ∧
      ∀ stage ∈ stagesWithin t.fragment.stages, stage.MeetsInWindow "default" := by
  obtain ⟨t, h⟩ := regionalOrders_builds .root (Build.start "default" "orders")
  have hplan :
      (EStateM.run' (regionalOrders.build .root >>= fun _ => Build.fragment)
        (Build.start "default" "orders")).map
          (fun f => (stagesWithin f.stages).countP Stage.isJoin) = some 2 := by
    decide +kernel
  rw [Build.run'_fragment h] at hplan
  exact ⟨t, h, Option.some.inj hplan, (sides_meet_in_window rfl h).2⟩

end Join

end JoinPlan
