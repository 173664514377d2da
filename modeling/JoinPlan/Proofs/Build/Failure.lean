import JoinPlan.Proofs.Build.Runs
import JoinPlan.Proofs.Build.References

/-!
# Builds that fail

A build that fails has taken names, and it may have built one side of a join. But the fragment at
hand is as it was: whatever can fail comes before the first stage that is added, or is done in a
fragment of its own.
-/

namespace JoinPlan

namespace Build

variable {α β : Type} {s t : Site} {e : BuildError}

/-! ## What a step does to the fragment at hand -/

def NeverFails (b : Build α) : Prop :=
  ∀ s, ∃ x t, b s = .ok x t

/-- Whether the fragment at hand is as it was when the build fails. -/
def FailsCleanly (b : Build α) : Prop :=
  ∀ ⦃s t e⦄, b s = .error e t → t.fragment = s.fragment

/-- Whether the fragment at hand is as it was, also when the build succeeds. -/
structure Keeps (b : Build α) : Prop where
  of_ok : ∀ {s t x}, b s = .ok x t → t.fragment = s.fragment
  failsCleanly : FailsCleanly b

theorem bind_eq_error {b : Build α} {f : α → Build β} :
    (b >>= f) s = .error e t ↔
      b s = .error e t ∨ ∃ x r, b s = .ok x r ∧ f x r = .error e t := by
  simp only [bind, EStateM.bind]
  cases b s <;> simp [and_assoc]

theorem NeverFails.failsCleanly {b : Build α} (h : NeverFails b) : FailsCleanly b := by
  intro s t e herror
  obtain ⟨x, r, hok⟩ := h s
  rw [hok] at herror
  cases herror

theorem NeverFails.bind {b : Build α} {f : α → Build β} (hb : NeverFails b)
    (hf : ∀ x, NeverFails (f x)) : NeverFails (b >>= f) := by
  intro s
  obtain ⟨x, r, hx⟩ := hb s
  obtain ⟨y, t, hy⟩ := hf x r
  exact ⟨y, t, bind_eq_ok.mpr ⟨x, r, hx, hy⟩⟩

/-- Behind a step that can fail come only steps that cannot. -/
theorem FailsCleanly.bind {b : Build α} {f : α → Build β} (hb : FailsCleanly b)
    (hf : ∀ x, NeverFails (f x)) : FailsCleanly (b >>= f) := by
  intro s t e herror
  rcases bind_eq_error.mp herror with hfirst | ⟨x, r, -, hsecond⟩
  · exact hb hfirst
  · obtain ⟨y, t', hy⟩ := hf x r
    rw [hy] at hsecond
    cases hsecond

theorem Keeps.bind {b : Build α} {f : α → Build β} (hb : Keeps b) (hf : ∀ x, FailsCleanly (f x)) :
    FailsCleanly (b >>= f) := by
  intro s t e herror
  rcases bind_eq_error.mp herror with hfirst | ⟨x, r, hx, hsecond⟩
  · exact hb.failsCleanly hfirst
  · exact (hf x hsecond).trans (hb.of_ok hx)

/-! ## Single steps -/

theorem neverFails_onFragment (g : Fragment → Fragment) : NeverFails (onFragment g) :=
  fun _ => ⟨(), _, onFragment_eq_ok.mpr rfl⟩

theorem neverFails_addStage (parts : List String) (stage : String → Stage) :
    NeverFails (addStage parts stage) :=
  fun _ => ⟨(), _, addStage_eq_ok.mpr rfl⟩

theorem keeps_fragment : Keeps fragment where
  of_ok h := (fragment_eq_ok.mp h).2 ▸ rfl
  failsCleanly := NeverFails.failsCleanly fun s => ⟨s.fragment, s, rfl⟩

theorem keeps_freshLabel (parts : List String) : Keeps (freshLabel parts) where
  of_ok h := fragment_of_freshLabel h
  failsCleanly := NeverFails.failsCleanly (freshLabel_succeeds parts)

theorem keeps_rightName (place : Place) : Keeps (rightName place) where
  of_ok h := fragment_of_rightName h
  failsCleanly := NeverFails.failsCleanly (rightName_succeeds place)

theorem keeps_ofKeys (k : Except KeyError α) : Keeps (ofKeys k) where
  of_ok h := (ofKeys_eq_ok.mp h).2 ▸ rfl
  failsCleanly := by
    intro s t e h
    cases k <;> cases h
    rfl

theorem keeps_nested (name : String) (b : Build Unit) : Keeps (nested name b) where
  of_ok h := fragment_of_nested h
  failsCleanly := by
    intro s t e h
    unfold nested at h
    split at h <;> cases h
    rfl

end Build

open Build

theorem neverFails_buildStream (t : Table) (filters : List Predicate) :
    NeverFails (buildStream t filters) := by
  intro s
  obtain ⟨r, hr, -⟩ := buildStream_succeeds t filters s
  exact ⟨(), r, hr⟩

/-! ## Joins -/

namespace Join

variable {j : Join} {left right : Role → Build Unit} {place : Place} {role : Role}

theorem keeps_requireCondition (j : Join) : Keeps j.requireCondition where
  of_ok h := (requireCondition_eq_ok.mp h).2 ▸ rfl
  failsCleanly := by
    intro s t e h
    unfold requireCondition at h
    cases hon : j.on <;> rw [hon] at h <;> cases h
    rfl

theorem keeps_checkColumns (j : Join) (c : JoinCondition) : Keeps (j.checkColumns c) where
  of_ok h := (checkColumns_eq_ok.mp h).2 ▸ rfl
  failsCleanly := by
    intro s t e h
    unfold checkColumns at h
    cases hcolumn : j.unknownColumn? c <;> rw [hcolumn] at h <;> cases h
    rfl

theorem neverFails_buildStage (j : Join) (window : JoinWindow) (l r : Fragment) :
    NeverFails (j.buildStage window l r) :=
  (neverFails_onFragment _).bind fun _ => neverFails_addStage _ _

/-- Both sides are built in fragments of their own before the stage that holds them is added. -/
theorem failsCleanly_buildWindow : FailsCleanly (j.buildWindow left right place) := by
  rw [buildWindow_eq]
  refine (keeps_requireCondition j).bind fun c => keeps_fragment.bind fun parent => ?_
  refine (keeps_freshLabel _).bind fun windowName => (keeps_ofKeys _).bind fun window => ?_
  refine (keeps_freshLabel _).bind fun leftName => (keeps_nested _ _).bind fun l => ?_
  refine (keeps_rightName _).bind fun name => (keeps_nested _ _).bind fun r => ?_
  exact (neverFails_buildStage j window l r).failsCleanly

theorem failsCleanly_buildReference : FailsCleanly (buildReference place) :=
  NeverFails.failsCleanly fun s =>
    let ⟨r, hr⟩ := Source.buildReference_succeeds place s
    ⟨(), r, hr⟩

theorem failsCleanly_buildWith_of_stream (hstream : j.right.strategy = .stream) :
    FailsCleanly (j.buildWith left right place role) := by
  rw [buildWith_of_stream hstream]
  split
  · exact failsCleanly_buildReference
  · exact failsCleanly_buildWindow

theorem failsCleanly_buildWith_dimension {src : Source} {t : Table} {kind : JoinKind}
    {on : Option JoinCondition} (hleft : FailsCleanly (left role)) :
    FailsCleanly ((⟨src, .dimension t, kind, on⟩ : Join).buildWith left right place role) := by
  -- All checks come before the left side adds its first stage.
  rw [buildWith_dimension]
  refine (keeps_requireCondition _).bind fun c => (keeps_checkColumns _ c).bind fun _ => ?_
  exact hleft.bind fun _ => neverFails_addStage _ _

theorem failsCleanly_buildWith_lateral {src : Source} {t : Table} {function : String}
    {args : List String} {kind : JoinKind} {on : Option JoinCondition}
    (hleft : FailsCleanly (left role)) :
    FailsCleanly ((⟨src, .lateral t function args, kind, on⟩ : Join).buildWith left right place
      role) := by
  have hsteps : FailsCleanly (left role >>= fun _ => buildExpand t function args kind) :=
    hleft.bind fun _ => neverFails_addStage _ _
  cases on with
  | none =>
    rw [buildWith_lateral_none]
    exact hsteps
  | some c =>
    rw [buildWith_lateral_some]
    exact (keeps_checkColumns _ c).bind fun _ => hsteps

end Join

/-! ## Sources -/

theorem Source.failsCleanly_build (src : Source) (place : Place) (role : Role) :
    FailsCleanly (src.build place role) := by
  -- Only lookups and table functions add to the fragment that their left side was built in.
  induction src generalizing place role with
  | stream t filters => exact (neverFails_buildStream t filters).failsCleanly
  | dimension =>
    intro s t e h
    cases h
    rfl
  | lateral => exact (neverFails_addStage _ _).failsCleanly
  | join left right kind on ihleft =>
    cases right with
    | stream => exact Join.failsCleanly_buildWith_of_stream rfl
    | join => exact Join.failsCleanly_buildWith_of_stream rfl
    | dimension => exact Join.failsCleanly_buildWith_dimension (ihleft _ _)
    | lateral => exact Join.failsCleanly_buildWith_lateral (ihleft _ _)

theorem failed_build_keeps_fragment {s t : Site} {e : BuildError} :
    (∀ (src : Source) (place : Place) (role : Role),
      src.build place role s = .error e t → t.fragment = s.fragment) ∧
    ∀ (j : Join) (role : Role), j.build role s = .error e t → t.fragment = s.fragment :=
  ⟨fun src place role h => src.failsCleanly_build place role h,
    fun j role h => j.toSource.failsCleanly_build [] role h⟩

/-- Orders with payments at their rates, which nothing reads the rates for, and with their regions. -/
def ratedOrders : Join where
  left := .join (.stream ⟨"orders", none, ["id", "region"]⟩ [])
    (.join (.dimension ⟨"rates", some "r", ["id"]⟩) (.stream ⟨"payments", some "p", ["id"]⟩ [])
      .inner (some (Join.sameColumn ⟨some "r", "id"⟩ ⟨some "p", "id"⟩)))
    .inner (some (Join.sameColumn ⟨some "orders", "id"⟩ ⟨some "p", "id"⟩))
  right := .dimension ⟨"regions", some "g", ["id"]⟩
  kind := .left
  on := some (Join.sameColumn ⟨some "orders", "region"⟩ ⟨some "g", "id"⟩)

/-- A fragment that reads clicks already. -/
def clicksSite : Site :=
  let start := Build.start "default" "orders"
  start.leave ((start.fragment.add (.source "clicks" "clicks" none)).dependOn (some "clicks"))

/-- The build fails within the right side, which has its name when the left side is complete. -/
theorem failed_build_keeps_fragment_ratedOrders :
    ∃ t, ratedOrders.build .root clicksSite = .error (.dimensionAlone "rates") t ∧
      t.rightNames.map (·.1) = [[.left]] ∧ t.fragment = clicksSite.fragment := by
  have hfails : (match ratedOrders.build .root clicksSite with
      | .error e t => some (e, t.rightNames.map (·.1))
      | .ok _ _ => none) = some (.dimensionAlone "rates", [[.left]]) := by
    decide +kernel
  cases h : ratedOrders.build .root clicksSite with
  | ok _ t =>
    rw [h] at hfails
    cases hfails
  | error e t =>
    rw [h] at hfails
    obtain ⟨rfl, hnames⟩ := Prod.mk.inj (Option.some.inj hfails)
    exact ⟨t, rfl, hnames, failed_build_keeps_fragment.2 ratedOrders .root h⟩

end JoinPlan
