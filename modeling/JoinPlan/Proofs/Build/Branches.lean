import JoinPlan.Proofs.Build.Growth
import JoinPlan.Proofs.Statement.PushDown

/-!
# The right fragment of a join and its branch

A join of two streams is one stage in the root fragment. In its own right fragment it is a reference to
that fragment instead. The root asks for other names before it asks for that of its right fragment,
but none of them is asked for under the same text, so both builds get the same name.
-/

namespace JoinPlan

open Build

/-! ## Tables -/

namespace Source

def isTable : Source → Bool
  | .join .. => false
  | _ => true

@[simp] theorem isTable_withFilters (s : Source) (ps : List Predicate) :
    (s.withFilters ps).isTable = s.isTable := by
  cases s <;> rfl

@[simp] theorem strategy_withFilters (s : Source) (ps : List Predicate) :
    (s.withFilters ps).strategy = s.strategy := by
  cases s <;> rfl

theorem tableName_withFilters {s : Source} (h : s.isTable = true) (ps : List Predicate) :
    (s.withFilters ps).tableName = s.tableName := by
  cases s with
  | join => cases h
  | _ => rfl

/-- A table is built in the same way in every fragment. -/
theorem build_of_isTable {s : Source} (h : s.isTable = true) (place : Place) (role role' : Role) :
    s.build place role = s.build place role' := by
  cases s with
  | join => cases h
  | _ => rfl

end Source

/-! ## Roles -/

namespace Join

theorem build_of_stream {j : Join} (hstream : j.right.strategy = .stream) (role : Role) :
    j.build role =
      if j.isOwnRight role then buildReference []
      else j.buildWindow (j.left.build [.left]) (j.right.build [.right]) [] :=
  buildWith_of_stream hstream

theorem build_root_of_stream {j : Join} (hstream : j.right.strategy = .stream) :
    j.build .root = j.buildWindow (j.left.build [.left]) (j.right.build [.right]) [] :=
  build_of_stream hstream .root

/-- Only the right fragment of a join of streams is built in another way than the root. -/
theorem build_of_not_ownRight {j : Join} {role : Role} (hleft : j.left.isTable = true)
    (hrole : j.right.strategy = .stream → j.isOwnRight role = false) :
    j.build role = j.build .root := by
  obtain ⟨left, right, kind, on⟩ := j
  have hbuild := left.build_of_isTable hleft [.left] role .root
  cases right with
  | stream | join =>
    rw [build_of_stream rfl, build_root_of_stream rfl, hrole rfl]
    rfl
  | dimension t =>
    unfold build toSource Source.build
    rw [buildWith_dimension, buildWith_dimension, List.nil_append, hbuild]
  | lateral t function args =>
    unfold build toSource Source.build
    cases on with
    | none => rw [buildWith_lateral_none, buildWith_lateral_none, List.nil_append, hbuild]
    | some c => rw [buildWith_lateral_some, buildWith_lateral_some, List.nil_append, hbuild]

end Join

/-! ## What a fragment asks for -/

/-- Whether all names between two sites were asked for under that of the fragment at hand. -/
structure Site.AsksHere (s t : Site) : Prop where
  name_eq : t.fragment.name = s.fragment.name
  rightNames_eq : t.rightNames = s.rightNames
  asks : NameSupply.AsksUnder s.fragment.name s.names t.names

namespace Site.AsksHere

variable {s t u : Site}

theorem trans (h : s.AsksHere t) (h' : t.AsksHere u) : s.AsksHere u where
  name_eq := h'.name_eq.trans h.name_eq
  rightNames_eq := h'.rightNames_eq.trans h.rightNames_eq
  asks := h.asks.trans (h.name_eq ▸ h'.asks)

theorem ne_empty (h : s.AsksHere t) (hname : s.fragment.name ≠ "") : t.fragment.name ≠ "" :=
  h.name_eq ▸ hname

theorem of_addStage {parts : List String} {stage : String → Stage} (hname : s.fragment.name ≠ "")
    (h : addStage parts stage s = .ok () t) : s.AsksHere t := by
  cases addStage_eq_ok.mp h
  exact ⟨rfl, rfl, NameSupply.asksUnder_fresh hname _ _⟩

theorem of_buildStream {table : Table} {filters : List Predicate} (hname : s.fragment.name ≠ "")
    (h : buildStream table filters s = .ok () t) : s.AsksHere t := by
  refine JoinPlan.of_buildStream h ?_ ?_
  · intro m hsource
    have hadd := of_addStage hname hsource
    exact ⟨hadd.name_eq, hadd.rightNames_eq, hadd.asks⟩
  · intro m m' p hm hfilter
    exact hm.trans (of_addStage (hm.ne_empty hname) hfilter)

theorem of_build {source : Source} {place : Place} {role : Role} (htable : source.isTable = true)
    (hname : s.fragment.name ≠ "") (h : source.build place role s = .ok () t) : s.AsksHere t := by
  cases source with
  | stream => exact of_buildStream hname h
  | dimension => exact absurd h throw_ne_ok
  | lateral => exact of_addStage hname h
  | join => cases htable

/-- A side of a join asks under its own name, and the fragment around it is at hand again. -/
theorem of_buildSide {source : Source} {place : Place} {role : Role} {window : JoinWindow}
    {name : String} {f : Fragment} (htable : source.isTable = true) (hname : name ≠ "")
    (h : Join.buildSide window name (source.build place role) s = .ok f t) :
    f.name = name ∧ t.fragment = s.fragment ∧ t.rightNames = s.rightNames ∧
      NameSupply.AsksUnder name s.names t.names := by
  obtain ⟨l, l', hside, hemit, rfl, rfl⟩ := Join.buildSide_eq_ok.mp h
  have hl : (s.enter name).AsksHere l := of_build htable hname hside
  have hl' : (s.enter name).AsksHere l' := hl.trans (of_addStage (hl.ne_empty hname) hemit)
  exact ⟨hl'.name_eq, rfl, hl'.rightNames_eq, hl'.asks⟩

end Site.AsksHere

/-! ## The name of the right fragment -/

namespace NameSupply

/-- The text under which a fragment asks for the name of its right fragment. -/
def rightStem (root : String) : String :=
  stem [root, "subpipeline", "join", "right"]

variable {root : String}

theorem stem_window_ne_rightStem (hroot : root ≠ "") :
    stem [root, "join", "window"] ≠ rightStem root := by
  simp [stem, rightStem, hroot, String.intercalate_cons_cons, String.append_assoc]

theorem stem_left_ne_rightStem (hroot : root ≠ "") :
    stem [root, "subpipeline", "join", "left"] ≠ rightStem root := by
  simp [stem, rightStem, hroot, String.intercalate_cons_cons, String.append_assoc]

theorem not_left_prefix_rightStem (hroot : root ≠ "") (n : Nat) :
    ¬(numbered (stem [root, "subpipeline", "join", "left"]) n).toList <+:
      (rightStem root).toList := by
  simp [stem, rightStem, hroot, String.intercalate_cons_cons, toList_numbered,
    List.prefix_append_right_inj]

end NameSupply

open NameSupply

/-- A fragment that has not asked for the name of its right fragment yet. -/
structure Site.RightUnasked (s : Site) (root : String) : Prop where
  name_eq : s.fragment.name = root
  rightNames_eq : s.rightNames = []
  count_eq : s.names.count (rightStem root) = 0

namespace Site.RightUnasked

variable {s t : Site} {space root name : String}

theorem start (space root : String) : (Build.start space root).RightUnasked root :=
  ⟨rfl, rfl, count_new _⟩

theorem of_freshLabel {parts : List String} (h : s.RightUnasked root)
    (hstem : stem (root :: parts) ≠ rightStem root) (hlabel : freshLabel parts s = .ok name t) :
    t.RightUnasked root := by
  obtain ⟨-, rfl⟩ := freshLabel_eq_ok.mp hlabel
  refine ⟨h.name_eq, h.rightNames_eq, ?_⟩
  rw [h.name_eq, count_fresh, if_neg hstem.symm]
  exact h.count_eq

theorem of_buildSide {source : Source} {place : Place} {role : Role} {window : JoinWindow}
    {f : Fragment} (h : s.RightUnasked root) (htable : source.isTable = true) (hname : name ≠ "")
    (hother : ¬name.toList <+: (rightStem root).toList)
    (hside : Join.buildSide window name (source.build place role) s = .ok f t) :
    t.RightUnasked root := by
  obtain ⟨-, hfragment, hrightNames, hasks⟩ := Site.AsksHere.of_buildSide htable hname hside
  exact ⟨hfragment ▸ h.name_eq, hrightNames.trans h.rightNames_eq,
    (hasks _ hother).trans h.count_eq⟩

/-- The first name under its text is what the right fragment gets. -/
theorem eq_of_rightName (h : s.RightUnasked root) (hname : rightName [] s = .ok name t) :
    name = numbered (rightStem root) 1 := by
  simp only [rightName, h.rightNames_eq, List.lookup_nil, h.name_eq] at hname
  cases hname
  rw [fresh_name, ← rightStem, h.count_eq]

end Site.RightUnasked

/-! ## The root and its branch -/

namespace Join

variable {j : Join} {space root : String} {t : Site}

/-- In the root fragment, a join of two tables is one stage. -/
theorem stages_of_build_root (hroot : root ≠ "") (hleft : j.left.isTable = true)
    (hright : j.right.isTable = true) (hstream : j.right.strategy = .stream)
    (h : j.build .root (Build.start space root) = .ok () t) :
    ∃ label window left leftStages right rightStages dependency,
      t.fragment.stages = [.join label window left leftStages right rightStages dependency] ∧
        right.name = numbered (rightStem root) 1 := by
  rw [build_root_of_stream hstream] at h
  obtain ⟨on, -, windowName, s₁, hwindowName, window, -, leftName, s₂, hleft', l, s₃, hl,
    name, s₄, hname, r, s₅, hr, hstage⟩ := buildWindow_eq_ok.mp h
  have h₁ : s₁.RightUnasked root :=
    (Site.RightUnasked.start space root).of_freshLabel (stem_window_ne_rightStem hroot) hwindowName
  have h₂ : s₂.RightUnasked root := h₁.of_freshLabel (stem_left_ne_rightStem hroot) hleft'
  have hleftName : leftName = numbered (stem [root, "subpipeline", "join", "left"])
      (s₁.names.count (stem [root, "subpipeline", "join", "left"]) + 1) := by
    rw [← (freshLabel_eq_ok.mp hleft').1, h₁.name_eq, fresh_name]
  have h₃ : s₃.RightUnasked root := by
    rw [hleftName] at hl
    exact h₂.of_buildSide hleft (numbered_ne_empty _ _) (not_left_prefix_rightStem hroot _) hl
  have hfirst : name = numbered (rightStem root) 1 := h₃.eq_of_rightName hname
  have hrName : r.name = name :=
    (Site.AsksHere.of_buildSide hright (hfirst ▸ numbered_ne_empty _ _) hr).1
  have h₅ : s₅.fragment = (Build.start space root).fragment :=
    (fragment_of_nested hr).trans <| (fragment_of_rightName hname).trans <|
      (fragment_of_nested hl).trans <| (fragment_of_freshLabel hleft').trans <|
        fragment_of_freshLabel hwindowName
  obtain ⟨label, hfragment⟩ := addJoin_of_buildStage hstage
  rw [h₅] at hfragment
  rw [hfragment]
  exact ⟨label, window, _, _, _, _, _, rfl,
    (name_withArrival j j.right r).trans (hrName.trans hfirst)⟩

/-- In its own right fragment, the join is a reference to that and nothing else. -/
theorem fragment_of_build_right (hstream : j.right.strategy = .stream) (space root : String) :
    ∃ label t, j.build (.right j.right.tableName) (Build.start space root) = .ok () t ∧
      t.fragment = ⟨⟨space, root, [], none, none, true⟩,
        [.reference label (numbered (rightStem root) 1)]⟩ := by
  have hown : j.isOwnRight (.right j.right.tableName) = true := by simp [isOwnRight]
  rw [build_of_stream hstream, if_pos hown]
  obtain ⟨t, ht⟩ := Source.buildReference_succeeds [] (Build.start space root)
  obtain ⟨name, m, hname, label, m', hlabel, rfl⟩ := buildReference_eq_ok.mp ht
  obtain ⟨-, rfl⟩ := freshName_eq_ok.mp hlabel
  refine ⟨label, _, ht, ?_⟩
  rw [← (Site.RightUnasked.start space root).eq_of_rightName hname]
  show { m.fragment.add (.reference label name) with isBreak := true } = _
  rw [fragment_of_rightName hname]
  rfl

end Join

end JoinPlan
