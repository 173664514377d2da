import JoinPlan.Proofs.Build.Steps
import JoinPlan.Proofs.Join.Window

/-!
# The stage of a join of streams

What a join of streams has done when its build succeeds: both sides were built as fragments of their
own around one window, and one stage that holds the two came behind the stages before it. It
succeeds when its condition makes keys and both sides can be built.
-/

namespace JoinPlan

open Build

namespace Join

variable {j : Join} {left right : Role → Build Unit} {place : Place}

/-! ## Steps -/

/-- The fragment of a side, which ends with the window. -/
def buildSide (window : JoinWindow) (name : String) (side : Build Unit) : Build Fragment :=
  nested name do
    side
    buildEmit window

theorem buildSide_eq_ok {window : JoinWindow} {name : String} {side : Build Unit} {f : Fragment}
    {s t : Site} :
    buildSide window name side s = .ok f t ↔
      ∃ l l', side (s.enter name) = .ok () l ∧ buildEmit window l = .ok () l' ∧
        l'.fragment = f ∧ l'.leave s.fragment = t := by
  rw [buildSide, nested_eq_ok]
  simp only [seq_eq_ok]
  constructor
  · rintro ⟨l', ⟨l, hside, hemit⟩, hf, ht⟩
    exact ⟨l, l', hside, hemit, hf, ht⟩
  · rintro ⟨l, l', hside, hemit, hf, ht⟩
    exact ⟨l', ⟨l, hside, hemit⟩, hf, ht⟩

/-- The last step of a join of streams: the stage that holds the fragments of its sides. -/
def buildStage (j : Join) (window : JoinWindow) (left right : Fragment) : Build Unit := do
  let left := j.withArrival j.left left
  let right := j.withArrival j.right right
  onFragment fun f =>
    (f.register (.window window :: left.registered ++ right.registered)).dependOn left.dependency
  addStage ["join"] fun label =>
    .join label window left.toHeader left.stages right.toHeader right.stages j.rightDependency

theorem buildStage_eq (j : Join) (window : JoinWindow) (left right : Fragment) (s : Site) :
    j.buildStage window left right s =
      addStage ["join"]
        (fun label => .join label window
          (j.withArrival j.left left).toHeader (j.withArrival j.left left).stages
          (j.withArrival j.right right).toHeader (j.withArrival j.right right).stages
          j.rightDependency)
        (s.leave ((s.fragment.register (.window window ::
          (j.withArrival j.left left).registered ++ (j.withArrival j.right right).registered)).dependOn
            (j.withArrival j.left left).dependency)) := rfl

/-- A join of streams takes the name of its window and builds its left side and then its right one
in fragments of their own. -/
theorem buildWindow_eq (j : Join) (left right : Role → Build Unit) (place : Place) :
    j.buildWindow left right place = (do
      let c ← j.requireCondition
      let parent ← fragment
      let windowName ← freshLabel ["join", "window"]
      let window ← ofKeys
        (JoinWindow.ofCondition parent.space windowName c j.kind j.left.scope j.right.scope)
      let leftName ← freshLabel ["subpipeline", "join", "left"]
      let l ← buildSide window leftName (left .left)
      let name ← rightName place
      let r ← buildSide window name (right (.right j.right.tableName))
      j.buildStage window l r) := rfl

theorem buildWindow_eq_ok {s t : Site} :
    j.buildWindow left right place s = .ok () t ↔
      ∃ c, j.on = some c ∧
      ∃ windowName s₁, freshLabel ["join", "window"] s = .ok windowName s₁ ∧
      ∃ window, JoinWindow.ofCondition s.fragment.space windowName c j.kind j.left.scope
          j.right.scope = .ok window ∧
      ∃ leftName s₂, freshLabel ["subpipeline", "join", "left"] s₁ = .ok leftName s₂ ∧
      ∃ l s₃, buildSide window leftName (left .left) s₂ = .ok l s₃ ∧
      ∃ name s₄, rightName place s₃ = .ok name s₄ ∧
      ∃ r s₅, buildSide window name (right (.right j.right.tableName)) s₄ = .ok r s₅ ∧
        j.buildStage window l r s₅ = .ok () t := by
  rw [buildWindow_eq]
  simp only [bind_eq_ok, requireCondition_eq_ok, fragment_eq_ok, ofKeys_eq_ok]
  constructor
  · rintro ⟨c, _, ⟨hon, rfl⟩, _, _, ⟨rfl, rfl⟩, windowName, s₁, hwindowName, window, _,
      ⟨hwindow, rfl⟩, h⟩
    exact ⟨c, hon, windowName, s₁, hwindowName, window, hwindow, h⟩
  · rintro ⟨c, hon, windowName, s₁, hwindowName, window, hwindow, h⟩
    exact ⟨c, _, ⟨hon, rfl⟩, _, _, ⟨rfl, rfl⟩, windowName, s₁, hwindowName, window, _,
      ⟨hwindow, rfl⟩, h⟩

/-! ## The stage -/

/-- What a join of streams leaves behind. -/
theorem of_buildWindow {s t : Site} (h : j.buildWindow left right place s = .ok () t) :
    ∃ c windowName window, j.on = some c ∧
      JoinWindow.ofCondition s.fragment.space windowName c j.kind j.left.scope j.right.scope =
        .ok window ∧
      ∃ leftName l s₁ s₂, buildSide window leftName (left .left) s₁ = .ok l s₂ ∧
        s₁.fragment = s.fragment ∧
      ∃ rightName r s₃ s₄, buildSide window rightName (right (.right j.right.tableName)) s₃ =
          .ok r s₄ ∧
        s₃.fragment = s.fragment ∧
      ∃ label, t.fragment =
        ((s.fragment.register (.window window ::
            (j.withArrival j.left l).registered ++ (j.withArrival j.right r).registered)).dependOn
              (j.withArrival j.left l).dependency).add
          (.join label window
            (j.withArrival j.left l).toHeader (j.withArrival j.left l).stages
            (j.withArrival j.right r).toHeader (j.withArrival j.right r).stages
            j.rightDependency) := by
  obtain ⟨c, hon, windowName, s₀, hwindowName, window, hwindow, leftName, s₁, hleftName, l, s₂, hl,
    rightName, s₃, hrightName, r, s₄, hr, hstage⟩ := buildWindow_eq_ok.mp h
  have h₁ : s₁.fragment = s.fragment :=
    (fragment_of_freshLabel hleftName).trans (fragment_of_freshLabel hwindowName)
  have h₃ : s₃.fragment = s.fragment :=
    (fragment_of_rightName hrightName).trans ((fragment_of_nested hl).trans h₁)
  have h₄ : s₄.fragment = s.fragment := (fragment_of_nested hr).trans h₃
  rw [buildStage_eq] at hstage
  cases addStage_eq_ok.mp hstage
  refine ⟨c, windowName, window, hon, hwindow, leftName, l, s₁, s₂, hl, h₁,
    rightName, r, s₃, s₄, hr, h₃, ?_⟩
  rw [← h₄]
  exact ⟨_, rfl⟩

theorem buildWindow_succeeds {c : JoinCondition} {keys : JoinKeys} (hon : j.on = some c)
    (hkeys : JoinKeys.ofCondition c j.left.scope j.right.scope = .ok keys)
    (hleft : ∀ window name s, ∃ f r, buildSide window name (left .left) s = .ok f r)
    (hright : ∀ window name s, ∃ f r,
      buildSide window name (right (.right j.right.tableName)) s = .ok f r) (s : Site) :
    ∃ r, j.buildWindow left right place s = .ok () r := by
  obtain ⟨windowName, s₀, h₀⟩ := freshLabel_succeeds ["join", "window"] s
  obtain ⟨leftName, s₁, h₁⟩ := freshLabel_succeeds ["subpipeline", "join", "left"] s₀
  obtain ⟨window, hwindow⟩ : ∃ window, JoinWindow.ofCondition s.fragment.space windowName c
      j.kind j.left.scope j.right.scope = .ok window :=
    ⟨_, JoinWindow.ofCondition_eq_ok.mpr ⟨keys, hkeys, rfl⟩⟩
  obtain ⟨l, s₂, h₂⟩ := hleft window leftName s₁
  obtain ⟨rightName, s₃, h₃⟩ := rightName_succeeds place s₂
  obtain ⟨r, s₄, h₄⟩ := hright window rightName s₃
  exact ⟨_, buildWindow_eq_ok.mpr ⟨c, hon, windowName, s₀, h₀, window, hwindow, leftName, s₁, h₁,
    l, s₂, h₂, rightName, s₃, h₃, r, s₄, h₄, (buildStage_eq j window l r s₄).trans
      (addStage_eq_ok.mpr rfl)⟩⟩

end Join

end JoinPlan
