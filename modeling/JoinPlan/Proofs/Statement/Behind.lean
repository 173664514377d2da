import JoinPlan.Proofs.Build.Growth
import JoinPlan.Proofs.Statement.Compile

/-!
# The stages behind a join

The plan of a statement is what its join is built to and behind that the stages of its filter, groups
and functions. All of these work on the rows of the root fragment and hold no other fragment.
-/

namespace JoinPlan

open Build

/-! ## Single stages -/

/-- Whether plain stages were added to the fragment at hand, each with a label of its own. -/
inductive Site.Gains (s : Site) : Site → Prop
  | refl : Gains s s
  | add {m t : Site} {parts : List String} {stage : String → Stage} (h : Gains s m)
      (hadd : addStage parts stage m = .ok () t) (hplain : ∀ label, (stage label).isPlain = true)
      (hlabel : ∀ label, (stage label).label = label) : Gains s t

theorem namesWithin_of_isPlain {stage : Stage} (h : stage.isPlain = true) :
    namesWithin [stage] = [stage.label] := by
  cases stage with
  | emit | join | reference => cases h
  | _ => rfl

namespace Site.Gains

variable {s t r : Site}

theorem trans (h : s.Gains t) (h' : t.Gains r) : s.Gains r := by
  induction h' with
  | refl => exact h
  | add _ hadd hplain hlabel ih => exact ih.add hadd hplain hlabel

theorem grows (h : s.Gains t) : s.fragment.Grows t.fragment := by
  induction h with
  | refl => exact .refl _
  | add _ hadd hplain _ ih => exact grows_of_addStage ih hadd hplain

theorem adds (h : s.Gains t) : ∃ stages, s.Adds t stages := by
  induction h with
  | refl => exact ⟨[], rfl, (List.append_nil _).symm, .nothing _, nofun⟩
  | add _ hadd hplain hlabel ih =>
    obtain ⟨stages, hstages⟩ := ih
    have hnames := fun label => (namesWithin_of_isPlain (hplain label)).trans
      (congrArg (fun l => [l]) (hlabel label))
    obtain ⟨-, label, hadds⟩ := adds_of_addStage hadd hnames
    exact ⟨_, hstages.trans hadds⟩

theorem stages_eq (h : s.Gains t) :
    ∃ behind, t.fragment.stages = s.fragment.stages ++ behind ∧
      ∀ stage ∈ behind, stage.isPlain = true := by
  induction h with
  | refl => exact ⟨[], (List.append_nil _).symm, nofun⟩
  | @add m t parts stage _ hadd hplain _ ih =>
    obtain ⟨behind, hstages, hbehind⟩ := ih
    obtain ⟨label, hfragment, -⟩ := of_addStage hadd
    refine ⟨behind ++ [stage label], ?_, List.forall_mem_append.mpr
      ⟨hbehind, List.forall_mem_singleton.mpr (hplain label)⟩⟩
    rw [hfragment, Fragment.stages_add, hstages, List.append_assoc]

theorem dependency_eq (h : s.Gains t) : t.fragment.dependency = s.fragment.dependency := by
  induction h with
  | refl => rfl
  | add _ hadd _ _ ih =>
    obtain ⟨label, hfragment, -⟩ := of_addStage hadd
    rw [hfragment]
    exact ih

end Site.Gains

/-! ## Statements -/

variable {s t : Site}

theorem gains_of_buildCalls {calls : List FunctionCall} (h : buildCalls calls s = .ok () t) :
    s.Gains t := by
  unfold buildCalls at h
  cases hcalls : calls.isEmpty with
  | true =>
    rw [hcalls] at h
    cases h
    exact .refl
  | false =>
    rw [hcalls] at h
    exact Site.Gains.refl.add h (fun _ => rfl) fun _ => rfl

theorem gains_of_buildFilter {filter : Option Predicate} (h : buildFilter filter s = .ok () t) :
    s.Gains t := by
  cases filter with
  | none =>
    cases h
    exact .refl
  | some p => exact Site.Gains.refl.add h (fun _ => rfl) fun _ => rfl

theorem GroupedQuery.gains_of_buildGroups {q : GroupedQuery} (h : q.buildGroups s = .ok () t) :
    s.Gains t := by
  unfold buildGroups at h
  split at h
  · exact gains_of_buildCalls h
  · exact Site.Gains.refl.add h (fun _ => rfl) fun _ => rfl

theorem GroupedQuery.gains_of_buildBehind {q : GroupedQuery} {filter : Option Predicate}
    (h : q.buildBehind filter s = .ok () t) : s.Gains t := by
  obtain ⟨m, hfilter, hgroups⟩ := seq_eq_ok.mp h
  exact (gains_of_buildFilter hfilter).trans (gains_of_buildGroups hgroups)

namespace Statement

variable {statement : Statement} {filter : Option Predicate}

theorem gains_of_buildBehind (h : statement.buildBehind filter s = .ok () t) : s.Gains t := by
  cases statement with
  | join => exact gains_of_buildCalls h
  | grouped => exact GroupedQuery.gains_of_buildBehind h
  | having =>
    obtain ⟨m, hgrouped, hhaving⟩ := seq_eq_ok.mp h
    exact (GroupedQuery.gains_of_buildBehind hgrouped).add hhaving (fun _ => rfl) fun _ => rfl

theorem gains_of_unlessBreak (h : unlessBreak (statement.buildBehind filter) s = .ok () t) :
    s.Gains t := by
  cases hbreak : s.fragment.isBreak with
  | true =>
    cases (unlessBreak_of_break hbreak).symm.trans h
    exact .refl
  | false =>
    rw [unlessBreak_of_not_break hbreak] at h
    exact gains_of_buildBehind h

theorem gains_of_compile {catalog : Catalog} {settings : Settings} {role : Role} {plan : Plan}
    (h : statement.compile catalog settings role = .ok plan) :
    ∃ (j : Join) (m site : Site), j.build role (Build.start settings.space settings.root) = .ok () m ∧
      m.Gains site ∧ site.fragment = plan.root := by
  obtain ⟨-, -, -, j, filter, -, site, hsite, rfl⟩ := compile_eq_ok.mp h
  obtain ⟨m, hbuild, hbehind⟩ := seq_eq_ok.mp hsite
  exact ⟨j, m, site, hbuild, gains_of_unlessBreak hbehind, rfl⟩

end Statement

end JoinPlan
