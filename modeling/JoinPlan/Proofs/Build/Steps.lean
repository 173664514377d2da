import JoinPlan.Join.Build

/-!
# Steps of a build that succeed

What a step leaves behind when it succeeds. A build succeeds when its steps do, one on what the
other left.
-/

namespace JoinPlan.Site

/-- The site with an empty fragment of a new name. -/
def enter (s : Site) (name : String) : Site :=
  { s with fragment := .new s.fragment.space name }

/-- The site back at a fragment. -/
def leave (s : Site) (f : Fragment) : Site :=
  { s with fragment := f }

end JoinPlan.Site

namespace JoinPlan.Build

variable {α β : Type} {s t : Site}

/-! ## Sequences -/

theorem bind_eq_ok {b : Build α} {f : α → Build β} {y : β} :
    (b >>= f) s = .ok y t ↔ ∃ x r, b s = .ok x r ∧ f x r = .ok y t := by
  simp only [bind, EStateM.bind]
  cases b s <;> simp [and_assoc]

/-- A step before another one, where the first has no answer. -/
theorem seq_eq_ok {b : Build Unit} {f : Unit → Build β} {y : β} :
    (b >>= f) s = .ok y t ↔ ∃ r, b s = .ok () r ∧ f () r = .ok y t := by
  rw [bind_eq_ok]
  exact ⟨fun ⟨(), h⟩ => h, fun h => ⟨(), h⟩⟩

theorem pure_eq_ok {x y : α} : (pure x : Build α) s = .ok y t ↔ x = y ∧ s = t := by
  simp [pure, EStateM.pure]

theorem throw_ne_ok {e : BuildError} {x : α} : (throw e : Build α) s ≠ .ok x t := by
  intro h
  cases h

/-! ## Single steps -/

theorem fragment_eq_ok {f : Fragment} : fragment s = .ok f t ↔ s.fragment = f ∧ s = t := by
  simp [fragment]

/-- Asked for its fragment alone, a build that succeeds gives the one that it leaves. -/
theorem run'_fragment {b : Build Unit} (h : b s = .ok () t) :
    EStateM.run' (b >>= fun _ => fragment) s = some t.fragment := by
  have hrun : (b >>= fun _ => fragment) s = .ok t.fragment t :=
    seq_eq_ok.mpr ⟨t, h, fragment_eq_ok.mpr ⟨rfl, rfl⟩⟩
  exact congrArg (fun r => EStateM.run' (fun _ => r) s) hrun

theorem onFragment_eq_ok {g : Fragment → Fragment} {u : Unit} :
    onFragment g s = .ok u t ↔ { s with fragment := g s.fragment } = t := by
  simp [onFragment]

theorem freshName_eq_ok {parts : List String} {name : String} :
    freshName parts s = .ok name t ↔
      (s.names.fresh parts).1 = name ∧ { s with names := (s.names.fresh parts).2 } = t := by
  simp [freshName]

theorem freshLabel_eq_ok {parts : List String} {label : String} :
    freshLabel parts s = .ok label t ↔
      (s.names.fresh (s.fragment.name :: parts)).1 = label ∧
        { s with names := (s.names.fresh (s.fragment.name :: parts)).2 } = t := by
  simp [freshLabel, bind_eq_ok, fragment_eq_ok, freshName_eq_ok, and_assoc]

theorem addStage_eq_ok {parts : List String} {stage : String → Stage} {u : Unit} :
    addStage parts stage s = .ok u t ↔
      { s with
        names := (s.names.fresh (s.fragment.name :: parts)).2
        fragment := s.fragment.add (stage (s.names.fresh (s.fragment.name :: parts)).1) } = t := by
  simp [addStage, bind_eq_ok, freshLabel_eq_ok, onFragment_eq_ok, and_assoc]

/-- A stage can always be added, under some label. -/
theorem addStage_succeeds (parts : List String) (stage : String → Stage) (s : Site) :
    ∃ label r, addStage parts stage s = .ok () r ∧
      r.fragment = s.fragment.add (stage label) ∧ r.rightNames = s.rightNames :=
  ⟨_, _, addStage_eq_ok.mpr rfl, rfl, rfl⟩

/-- The fragment around a nested one stays as it was. -/
theorem nested_eq_ok {name : String} {b : Build Unit} {f : Fragment} :
    nested name b s = .ok f t ↔
      ∃ r, b (s.enter name) = .ok () r ∧ r.fragment = f ∧ r.leave s.fragment = t := by
  have henter : { s with fragment := .new s.fragment.space name } = s.enter name := rfl
  rw [nested, henter]
  cases b (s.enter name) <;> simp [Site.leave]

theorem ofKeys_eq_ok {k : Except KeyError α} {x : α} :
    ofKeys k s = .ok x t ↔ k = .ok x ∧ s = t := by
  cases k <;> simp [ofKeys, pure_eq_ok, throw_ne_ok]

/-! ## The fragment at hand -/

theorem freshLabel_succeeds (parts : List String) (s : Site) :
    ∃ label r, freshLabel parts s = .ok label r :=
  ⟨_, _, freshLabel_eq_ok.mpr ⟨rfl, rfl⟩⟩

theorem fragment_of_freshLabel {parts : List String} {label : String}
    (h : freshLabel parts s = .ok label t) : t.fragment = s.fragment := by
  obtain ⟨-, rfl⟩ := freshLabel_eq_ok.mp h
  rfl

theorem fragment_of_nested {name : String} {b : Build Unit} {f : Fragment}
    (h : nested name b s = .ok f t) : t.fragment = s.fragment := by
  obtain ⟨r, -, -, rfl⟩ := nested_eq_ok.mp h
  rfl

theorem rightName_succeeds (place : Place) (s : Site) :
    ∃ name r, rightName place s = .ok name r := by
  unfold rightName
  split <;> exact ⟨_, _, rfl⟩

theorem fragment_of_rightName {place : Place} {name : String}
    (h : rightName place s = .ok name t) : t.fragment = s.fragment := by
  unfold rightName at h
  split at h <;> cases h <;> rfl

/-- The names of a window and its sides leave the fragment around the sides as it was. -/
theorem fragment_of_sideNames {parts leftParts : List String} {place : Place}
    {windowName leftName name : String} {s₁ s₂ l s₃ : Site}
    (hwindowName : freshLabel parts s = .ok windowName s₁)
    (hleftName : freshLabel leftParts s₁ = .ok leftName s₂)
    (hname : rightName place (l.leave s₂.fragment) = .ok name s₃) : s₃.fragment = s.fragment :=
  (fragment_of_rightName hname).trans
    ((fragment_of_freshLabel hleftName).trans (fragment_of_freshLabel hwindowName))

end JoinPlan.Build

namespace JoinPlan.Join

open Build

theorem requireCondition_eq_ok {j : Join} {c : JoinCondition} {s t : Site} :
    j.requireCondition s = .ok c t ↔ j.on = some c ∧ s = t := by
  unfold requireCondition
  cases j.on <;> simp [pure_eq_ok, throw_ne_ok]

theorem checkColumns_eq_ok {j : Join} {c : JoinCondition} {u : Unit} {s t : Site} :
    j.checkColumns c s = .ok u t ↔ j.unknownColumn? c = none ∧ s = t := by
  unfold checkColumns
  cases j.unknownColumn? c <;> simp [pure_eq_ok, throw_ne_ok]

end JoinPlan.Join
