import JoinPlan.Proofs.Build.Runs
import JoinPlan.Proofs.NameSupply
import JoinPlan.Proofs.Plan.Nested
import Mathlib.Data.List.Count

/-!
# Each name in a plan is made once

A run takes a new name for every stage, window and fragment that it adds, and for every fragment that
it refers to, unless a join on its way has the name of its right fragment from an earlier run. All of
them are longer than the name of the fragment at hand, so none of them is that name.
-/

namespace JoinPlan

open Build

namespace Site

/-! ## Names and stages -/

/-- Whether one new name was taken, which is longer than that of the fragment at hand. -/
structure Takes (s t : Site) (name : String) : Prop where
  gives : NameSupply.Gives s.names t.names [name]
  longer : s.fragment.name.length < name.length

/-- Whether stages were added to the fragment at hand, with names that were made for them. -/
structure Adds (s t : Site) (stages : List Stage) : Prop where
  name_eq : t.fragment.name = s.fragment.name
  stages_eq : t.fragment.stages = s.fragment.stages ++ stages
  gives : NameSupply.Gives s.names t.names (namesWithin stages)
  longer : ∀ n ∈ namesWithin stages, s.fragment.name.length < n.length

theorem Adds.trans {s t u : Site} {stages more : List Stage} (h : s.Adds t stages)
    (h' : t.Adds u more) : s.Adds u (stages ++ more) where
  name_eq := h'.name_eq.trans h.name_eq
  stages_eq := by rw [h'.stages_eq, h.stages_eq, List.append_assoc]
  gives := by
    rw [namesWithin_append]
    exact h.gives.trans h'.gives
  longer n hn := by
    rw [namesWithin_append] at hn
    rcases List.mem_append.mp hn with hn | hn
    · exact h.longer n hn
    · exact h.name_eq ▸ h'.longer n hn

/-- Whether no right fragment of a join at a place or within it has a name. -/
def Unnamed (s : Site) (place : Place) : Prop :=
  ∀ e ∈ s.rightNames, ¬place <+: e.1

theorem Unnamed.ne {s : Site} {place : Place} (h : s.Unnamed place) :
    ∀ e ∈ s.rightNames, e.1 ≠ place :=
  fun e he heq => h e he (heq ▸ List.prefix_rfl)

theorem Unnamed.side {s : Site} {place : Place} (h : s.Unnamed place) (side : Side) :
    s.Unnamed (place ++ [side]) :=
  fun e he hprefix => h e he ((List.prefix_append _ _).trans hprefix)

end Site

theorem Place.not_side_prefix (place : Place) (side : Side) : ¬place ++ [side] <+: place := by
  intro h
  have hlength := h.length_le
  rw [List.length_append, List.length_singleton] at hlength
  omega

/-- No place is within both sides of another one. -/
theorem Place.not_both_sides {place inner : Place} (hleft : place ++ [.left] <+: inner) :
    ¬place ++ [.right] <+: inner := by
  rintro ⟨v, hv⟩
  obtain ⟨u, hu⟩ := hleft
  simpa using hu.trans hv.symm

/-! ## Steps -/

namespace Build

variable {s t : Site} {parts : List String} {label name : String} {place : Place}

theorem of_freshLabel (h : freshLabel parts s = .ok label t) :
    t.rightNames = s.rightNames ∧ s.Takes t label := by
  obtain ⟨rfl, rfl⟩ := freshLabel_eq_ok.mp h
  exact ⟨rfl, .one _ _, NameSupply.length_lt_fresh _ _ _⟩

theorem of_addStage {stage : String → Stage} (h : addStage parts stage s = .ok () t) :
    ∃ label, t.fragment = s.fragment.add (stage label) ∧ t.rightNames = s.rightNames ∧
      s.Takes t label := by
  cases addStage_eq_ok.mp h
  exact ⟨_, rfl, rfl, .one _ _, NameSupply.length_lt_fresh _ _ _⟩

theorem adds_of_addStage {stage : String → Stage} (h : addStage parts stage s = .ok () t)
    (hnames : ∀ label, namesWithin [stage label] = [label]) :
    t.rightNames = s.rightNames ∧ ∃ label, s.Adds t [stage label] := by
  obtain ⟨label, hfragment, hright, htakes⟩ := of_addStage h
  refine ⟨hright, label, congrArg (·.name) hfragment, congrArg (·.stages) hfragment, ?_, ?_⟩
  · rw [hnames]
    exact htakes.gives
  · rw [hnames]
    exact List.forall_mem_singleton.mpr htakes.longer

theorem rightNames_of_rightName (h : rightName place s = .ok name t) :
    ∀ e ∈ t.rightNames, e ∈ s.rightNames ∨ e.1 = place := by
  unfold rightName at h
  split at h
  · cases h
    exact fun e he => Or.inl he
  · cases h
    intro e he
    rcases List.mem_cons.mp he with rfl | he
    · exact Or.inr rfl
    · exact Or.inl he

theorem takes_of_rightName (hplace : ∀ e ∈ s.rightNames, e.1 ≠ place)
    (h : rightName place s = .ok name t) : s.Takes t name := by
  have hnone : s.rightNames.lookup place = none := by
    rw [List.lookup_eq_none_iff]
    intro e he
    simpa using (hplace e he).symm
  simp only [rightName, hnone] at h
  cases h
  exact ⟨.one _ _, NameSupply.length_lt_fresh _ _ _⟩

end Build

/-! ## Sources -/

theorem adds_of_buildStream {t : Table} {filters : List Predicate} {s r : Site}
    (h : buildStream t filters s = .ok () r) :
    r.rightNames = s.rightNames ∧ ∃ stages, s.Adds r stages := by
  refine of_buildStream h ?_ ?_
  · intro m hsource
    obtain ⟨hright, label, hadds⟩ := adds_of_addStage hsource fun _ => rfl
    have hdepend : m.Adds (m.leave (m.fragment.dependOn t.name)) [] :=
      ⟨rfl, (List.append_nil _).symm, .nothing _, nofun⟩
    exact ⟨hright, _, hadds.trans hdepend⟩
  · rintro m m' p ⟨hright, _, hadds⟩ hfilter
    obtain ⟨hright', label', hadds'⟩ := adds_of_addStage hfilter fun _ => rfl
    exact ⟨hright'.trans hright, _, hadds.trans hadds'⟩

namespace Join

theorem adds_of_buildReference {place : Place} {s r : Site}
    (hplace : ∀ e ∈ s.rightNames, e.1 ≠ place) (h : buildReference place s = .ok () r) :
    ∃ stages, s.Adds r stages := by
  obtain ⟨name, m, hname, label, m', hlabel, rfl⟩ := buildReference_eq_ok.mp h
  obtain ⟨rfl, rfl⟩ := freshName_eq_ok.mp hlabel
  have htakes := takes_of_rightName hplace hname
  have hfragment := fragment_of_rightName hname
  have hlonger := NameSupply.length_lt_fresh m.names name ["ref"]
  refine ⟨[.reference (m.names.fresh [name, "ref"]).1 name], ?_, ?_, ?_, ?_⟩
  · exact congrArg (·.name) hfragment
  · exact congrArg (·.stages ++ _) hfragment
  · exact (htakes.gives.trans (.one _ _)).perm (List.Perm.swap _ _ _)
  · exact List.forall_mem_cons.mpr ⟨Nat.lt_trans htakes.longer hlonger,
      List.forall_mem_singleton.mpr htakes.longer⟩

/-- The stage that a join of streams adds holds the stages of both sides. -/
theorem of_buildStage {j : Join} {window : JoinWindow} {left right : Fragment} {s t : Site}
    (h : j.buildStage window left right s = .ok () t) :
    ∃ label l r, l.name = left.name ∧ r.name = right.name ∧
      t.fragment.name = s.fragment.name ∧
      t.fragment.stages = s.fragment.stages ++
        [.join label window l left.stages r right.stages j.rightDependency] ∧
      t.rightNames = s.rightNames ∧ s.Takes t label := by
  rw [buildStage_eq] at h
  obtain ⟨label, hfragment, hright, htakes⟩ := of_addStage h
  refine ⟨label, (j.withArrival j.left left).toHeader, (j.withArrival j.right right).toHeader,
    name_withArrival j j.left left, name_withArrival j j.right right, congrArg (·.name) hfragment,
    ?_, hright, htakes.gives, htakes.longer⟩
  rw [← stages_withArrival j j.left left, ← stages_withArrival j j.right right]
  exact congrArg (·.stages) hfragment

/-- The stage of a join of streams has the names of its window and of both sides. -/
theorem adds_of_buildWindow {j : Join} {place : Place} {windowName leftName name : String}
    {window : JoinWindow} {left right : List Stage} {s s₁ s₂ l s₃ r t : Site}
    (hwindowName : freshLabel ["join", "window"] s = .ok windowName s₁)
    (hwindow : window.name = windowName)
    (hleftName : freshLabel ["subpipeline", "join", "left"] s₁ = .ok leftName s₂)
    (hleft : (s₂.enter leftName).Adds l left)
    (hplace : ∀ e ∈ l.rightNames, e.1 ≠ place)
    (hname : rightName place (l.leave s₂.fragment) = .ok name s₃)
    (hright : (s₃.enter name).Adds r right)
    (hstage : j.buildStage window l.fragment r.fragment (r.leave s₃.fragment) = .ok () t) :
    ∃ stages, s.Adds t stages := by
  have h₁ : s₁.fragment = s.fragment := fragment_of_freshLabel hwindowName
  have h₂ : s₂.fragment = s.fragment := (fragment_of_freshLabel hleftName).trans h₁
  have h₃ : s₃.fragment = s.fragment := (fragment_of_rightName hname).trans h₂
  obtain ⟨-, htakes₁⟩ := of_freshLabel hwindowName
  obtain ⟨-, htakes₂⟩ := of_freshLabel hleftName
  have htakes₃ := takes_of_rightName (s := l.leave s₂.fragment) hplace hname
  obtain ⟨label, lh, rh, hlname, hrname, hname_eq, hstages, -, htakes⟩ := of_buildStage hstage
  subst hwindow
  have hnames : namesWithin [.join label window lh l.fragment.stages rh r.fragment.stages
      j.rightDependency] =
        [label, window.name, leftName, name] ++ (namesWithin left ++ namesWithin right) := by
    rw [namesWithin_join, hlname, hrname, hleft.name_eq, hright.name_eq, hleft.stages_eq,
      hright.stages_eq]
    rfl
  refine ⟨_, hname_eq.trans (congrArg (·.name) h₃), hstages.trans (congrArg (·.stages ++ _) h₃),
    ?_, ?_⟩
  · -- The names come in the order in which they are taken. The stage lists its own four first.
    rw [hnames]
    have hgives := ((((htakes₁.gives.trans htakes₂.gives).trans hleft.gives).trans
      htakes₃.gives).trans hright.gives).trans htakes.gives
    refine hgives.perm (List.perm_iff_count.mpr fun n => ?_)
    simp only [List.count_append, List.count_cons, List.count_nil]
    omega
  · have hlabel : s.fragment.name.length < label.length := h₃ ▸ htakes.longer
    have hleftName : s.fragment.name.length < leftName.length := h₁ ▸ htakes₂.longer
    have hrightName : s.fragment.name.length < name.length := h₂ ▸ htakes₃.longer
    rw [hnames]
    refine List.forall_mem_append.mpr ⟨?_, List.forall_mem_append.mpr ⟨?_, ?_⟩⟩
    · simp [hlabel, htakes₁.longer, hleftName, hrightName]
    · exact fun n hn => Nat.lt_trans hleftName (hleft.longer n hn)
    · exact fun n hn => Nat.lt_trans hrightName (hright.longer n hn)

end Join

/-! ## Runs -/

namespace Source.Builds

variable {src : Source} {place : Place} {role : Role} {s t : Site}

/-- The right fragments that get names in a run are those of joins at its place or within it. -/
theorem rightNames (h : src.Builds place role s t) :
    ∀ e ∈ t.rightNames, e ∈ s.rightNames ∨ place <+: e.1 := by
  induction h with
  | stream h =>
    intro e he
    exact .inl ((adds_of_buildStream h).1 ▸ he)
  | lateral h =>
    intro e he
    exact .inl ((adds_of_addStage h fun _ => rfl).1 ▸ he)
  | lookup _ _ h ih | expand _ _ h ih =>
    intro e he
    rw [(adds_of_addStage h fun _ => rfl).1] at he
    exact (ih e he).imp_right (List.prefix_append _ _).trans
  | reference _ _ h =>
    obtain ⟨name, m, hname, label, m', hlabel, rfl⟩ := Join.buildReference_eq_ok.mp h
    obtain ⟨-, rfl⟩ := freshName_eq_ok.mp hlabel
    intro e he
    rcases rightNames_of_rightName hname e he with he | heq
    · exact .inl he
    · exact .inr (heq ▸ List.prefix_rfl)
  | window _ _ hwindowName _ hleftName _ hleftEmit hname _ hrightEmit hstage ihleft ihright =>
    obtain ⟨_, _, _, _, _, _, _, hstageNames, _⟩ := Join.of_buildStage hstage
    intro e he
    rw [hstageNames] at he
    have he := (adds_of_addStage hrightEmit fun _ => rfl).1 ▸ he
    rcases ihright e he with he | hprefix
    · rcases rightNames_of_rightName hname e he with he | heq
      · have he := (adds_of_addStage hleftEmit fun _ => rfl).1 ▸ he
        rcases ihleft e he with he | hprefix
        · exact .inl ((of_freshLabel hwindowName).1 ▸ (of_freshLabel hleftName).1 ▸ he)
        · exact .inr ((List.prefix_append _ _).trans hprefix)
      · exact .inr (heq ▸ List.prefix_rfl)
    · exact .inr ((List.prefix_append _ _).trans hprefix)

/-- When the left side of a join is built, neither the join nor its right side has a right fragment
with a name. -/
theorem unnamed_of_left {left : Source} {window : JoinWindow}
    {windowName leftName name : String} {s s₁ s₂ l l' s₃ : Site} (hplace : s.Unnamed place)
    (hwindowName : freshLabel ["join", "window"] s = .ok windowName s₁)
    (hleftName : freshLabel ["subpipeline", "join", "left"] s₁ = .ok leftName s₂)
    (hleft : left.Builds (place ++ [.left]) .left (s₂.enter leftName) l)
    (hleftEmit : Join.buildEmit window l = .ok () l')
    (hname : rightName place (l'.leave s₂.fragment) = .ok name s₃) :
    (s₂.enter leftName).Unnamed (place ++ [.left]) ∧ (∀ e ∈ l'.rightNames, e.1 ≠ place) ∧
      (s₃.enter name).Unnamed (place ++ [.right]) := by
  have h₂ : s₂.rightNames = s.rightNames :=
    (of_freshLabel hleftName).1.trans (of_freshLabel hwindowName).1
  -- The left side only adds names within its own place, which the other two are not.
  have hnames : ∀ e ∈ l'.rightNames, e ∈ s.rightNames ∨ place ++ [.left] <+: e.1 := by
    intro e he
    rw [(adds_of_addStage hleftEmit fun _ => rfl).1] at he
    exact h₂ ▸ hleft.rightNames e he
  refine ⟨fun e he => hplace.side .left e (h₂ ▸ he), ?_, ?_⟩
  · rintro e he rfl
    rcases hnames e he with he | hprefix
    · exact hplace e he List.prefix_rfl
    · exact Place.not_side_prefix _ _ hprefix
  · intro e he hright
    rcases rightNames_of_rightName hname e he with he | rfl
    · rcases hnames e he with he | hprefix
      · exact hplace.side .right e he hright
      · exact Place.not_both_sides hprefix hright
    · exact Place.not_side_prefix _ _ hright

/-- A run adds stages with names that were made for them. -/
theorem adds (h : src.Builds place role s t) (hplace : s.Unnamed place) :
    ∃ stages, s.Adds t stages := by
  induction h with
  | stream h => exact (adds_of_buildStream h).2
  | lateral h =>
    obtain ⟨-, _, hadds⟩ := adds_of_addStage h fun _ => rfl
    exact ⟨_, hadds⟩
  | lookup _ _ h ih | expand _ _ h ih =>
    obtain ⟨left, hleft⟩ := ih (hplace.side .left)
    obtain ⟨-, _, hadds⟩ := adds_of_addStage h fun _ => rfl
    exact ⟨_, hleft.trans hadds⟩
  | reference _ _ h => exact Join.adds_of_buildReference hplace.ne h
  | window _ _ hwindowName hwindow hleftName hleft hleftEmit hname _ hrightEmit hstage ihleft
      ihright =>
    obtain ⟨hunnamed, hne, hunnamed'⟩ :=
      unnamed_of_left hplace hwindowName hleftName hleft hleftEmit hname
    obtain ⟨left, hleftAdds⟩ := ihleft hunnamed
    obtain ⟨-, _, hleftEmitAdds⟩ := adds_of_addStage hleftEmit fun _ => rfl
    obtain ⟨right, hrightAdds⟩ := ihright hunnamed'
    obtain ⟨-, _, hrightEmitAdds⟩ := adds_of_addStage hrightEmit fun _ => rfl
    obtain ⟨keys, -, rfl⟩ := JoinWindow.ofCondition_eq_ok.mp hwindow
    exact Join.adds_of_buildWindow hwindowName rfl hleftName (hleftAdds.trans hleftEmitAdds) hne
      hname (hrightAdds.trans hrightEmitAdds) hstage

end Source.Builds

end JoinPlan
