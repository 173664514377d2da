import JoinPlan.Proofs.Build.Sides
import JoinPlan.Proofs.PushDown
import JoinPlan.Proofs.Statement.Behind

/-!
# No two things in a plan have one name

The fragments of a plan, the windows of its joins and its stages have names. All of them are made for
the plan, but for that of the root, which is shorter than they are.
-/

namespace JoinPlan

/-! ## The names of a plan -/

def Stage.windowNames : Stage → List String
  | .join _ window .. => [window.name]
  | _ => []

namespace Fragment

/-- The names of the windows in which a plan joins streams. -/
def windowNames (f : Fragment) : List String :=
  (stagesWithin f.stages).flatMap Stage.windowNames

def labels (f : Fragment) : List String :=
  (stagesWithin f.stages).map Stage.label

/-- The names of all fragments, windows and stages of a plan. -/
def allNames (f : Fragment) : List String :=
  f.fragmentNames ++ (f.windowNames ++ f.labels)

end Fragment

theorem Stage.count_names_le (n : String) (stage : Stage) :
    stage.fragmentNames.count n + stage.windowNames.count n + [stage.label].count n ≤
      stage.names.count n := by
  cases stage with
  | join | reference =>
    simp only [fragmentNames, windowNames, names, label, List.count_cons, List.count_nil]
    omega
  | _ => exact Nat.le_of_eq (Nat.zero_add _)

/-- What some stages name in several ways was made as often. -/
theorem count_names_le (n : String) (stages : List Stage) :
    (stages.flatMap Stage.fragmentNames).count n + (stages.flatMap Stage.windowNames).count n +
      (stages.map Stage.label).count n ≤ (stages.flatMap Stage.names).count n := by
  induction stages with
  | nil => exact Nat.le_refl 0
  | cons stage stages ih =>
    have hstage := stage.count_names_le n
    rw [List.count_singleton] at hstage
    rw [List.map_cons, List.count_cons]
    simp only [List.flatMap_cons, List.count_append]
    omega

/-- Where a fragment had no stages, its plan has the names that were made for it and its own. -/
theorem Site.Adds.allNames_nodup {s t : Site} {stages : List Stage} (h : s.Adds t stages)
    (hempty : s.fragment.stages = []) : t.fragment.allNames.Nodup := by
  have hstages : t.fragment.stages = stages := by rw [h.stages_eq, hempty, List.nil_append]
  -- The name of the root was not made for this plan, but whatever was made is longer.
  have hroot : t.fragment.name ∉ namesWithin stages := by
    intro hmem
    exact Nat.lt_irrefl _ (h.name_eq ▸ h.longer _ hmem)
  have hnodup : (t.fragment.name :: namesWithin stages).Nodup :=
    List.nodup_cons.mpr ⟨hroot, h.gives.nodup⟩
  -- All names are among these, though in another order, so they are counted.
  refine List.nodup_iff_count_le_one.mpr fun n => ?_
  have hmade := List.nodup_iff_count_le_one.mp hnodup n
  have hcount := count_names_le n (stagesWithin stages)
  rw [Fragment.allNames, Fragment.fragmentNames, Fragment.windowNames, Fragment.labels, hstages,
    List.cons_append, List.count_cons, List.count_append, List.count_append]
  rw [List.count_cons] at hmade
  simp only [namesWithin] at hmade
  omega

/-! ## Plans -/

/-- A fresh build takes a new name for each stage, window and fragment. -/
theorem Join.adds_of_build {j : Join} {role : Role} {s t : Site} (hfresh : s.rightNames = [])
    (h : j.build role s = .ok () t) : ∃ stages, s.Adds t stages :=
  (Source.builds_of_build h).adds fun _ he => absurd (hfresh ▸ he) List.not_mem_nil

/-- In a plan no two of the fragments, windows and stages have one name, where no join kept the name
of its right fragment from an earlier build. -/
theorem allNames_nodup_of_plan :
    (∀ {j : Join} {role : Role} {s t : Site}, s.fragment.stages = [] → s.rightNames = [] →
      j.build role s = .ok () t → t.fragment.allNames.Nodup) ∧
    ∀ {statement : Statement} {catalog : Catalog} {settings : Settings} {role : Role} {plan : Plan},
      statement.compile catalog settings role = .ok plan → plan.root.allNames.Nodup := by
  constructor
  · intro j role s t hempty hfresh h
    obtain ⟨stages, hadds⟩ := Join.adds_of_build hfresh h
    exact hadds.allNames_nodup hempty
  · intro statement catalog settings role plan h
    obtain ⟨j, m, site, hbuild, hgains, hroot⟩ := Statement.gains_of_compile h
    obtain ⟨stages, hadds⟩ := Join.adds_of_build rfl hbuild
    obtain ⟨more, hmore⟩ := hgains.adds
    exact hroot ▸ (hadds.trans hmore).allNames_nodup rfl

open GroupedQuery in
/-- There are names of five fragments, two windows and ten stages, and in the plan of a query those of
three, one and seven. -/
theorem allNames_nodup_of_plan_regionalOrders :
    (∃ t, Join.regionalOrders.build .root (Build.start "default" "orders") = .ok () t ∧
      t.fragment.allNames.length = 17 ∧ t.fragment.allNames.Nodup) ∧
    ∃ plan, (paidOrders .left paidById).compileWith ledger .default true = .ok plan ∧
      plan.root.allNames.length = 11 ∧ plan.root.allNames.Nodup := by
  constructor
  · obtain ⟨t, h⟩ := Join.regionalOrders_builds .root (Build.start "default" "orders")
    have hplan :
        (EStateM.run' (Join.regionalOrders.build .root >>= fun _ => Build.fragment)
          (Build.start "default" "orders")).map (·.allNames.length) = some 17 := by
      decide +kernel
    rw [Build.run'_fragment h] at hplan
    exact ⟨t, h, Option.some.inj hplan, allNames_nodup_of_plan.1 rfl rfl h⟩
  · obtain ⟨plan, hplan, hlength⟩ := Outcome.toOption_map_eq_some.mp (show ((paidOrders .left
      paidById).compileWith ledger .default true).toOption.map (·.root.allNames.length) =
        some 11 by decide +kernel)
    exact ⟨plan, hplan, hlength, allNames_nodup_of_plan.2 hplan⟩

end JoinPlan
