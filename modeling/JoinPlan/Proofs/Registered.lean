import JoinPlan.Proofs.Build.Sides
import JoinPlan.Proofs.PushDown
import JoinPlan.Proofs.Statement.Behind

/-!
# What is registered on fragments

A fragment has on it what its stages register and what the stages of the fragments within it do, each
once, in the order in which a walk through the stages comes to them. A plan has all of it at its root.
-/

namespace JoinPlan

/-! ## A walk through stages -/

mutual
/-- What a stage and the stages of the fragments that it holds register: a filter itself, and a stage
that joins two streams its window and then what its left and its right side do. -/
def Stage.registersWithin : Stage → List Registered
  | .filter f => [.filter f]
  | .join _ window _ left _ right _ =>
    .window window :: (registeredWithin left ++ registeredWithin right)
  | _ => []

def registeredWithin : List Stage → List Registered
  | [] => []
  | stage :: rest => stage.registersWithin ++ registeredWithin rest
end

theorem registeredWithin_append (as bs : List Stage) :
    registeredWithin (as ++ bs) = registeredWithin as ++ registeredWithin bs := by
  induction as with
  | nil => rfl
  | cons stage as ih =>
    rw [List.cons_append, registeredWithin, ih, registeredWithin, List.append_assoc]

@[simp] theorem registeredWithin_singleton (stage : Stage) :
    registeredWithin [stage] = stage.registersWithin := by
  rw [registeredWithin, registeredWithin, List.append_nil]

theorem Stage.registersWithin_of_not_join {stage : Stage} (h : stage.isJoin = false) :
    stage.registersWithin = stage.registered := by
  cases stage with
  | join => cases h
  | _ => rfl

/-- Whether each side of a stage has on it what a walk through its stages finds, if the stage joins
two streams. -/
def Stage.SidesRegister : Stage → Prop
  | .join _ _ left leftStages right rightStages _ =>
    left.registered = registeredWithin leftStages ∧ right.registered = registeredWithin rightStages
  | _ => True

/-- Whether a fragment and all fragments within it have on them what a walk through their stages
finds. -/
structure Fragment.RegistersAll (f : Fragment) : Prop where
  registered_eq : f.registered = registeredWithin f.stages
  within : ∀ stage ∈ stagesWithin f.stages, stage.SidesRegister

/-! ## Fragments that grow -/

namespace Fragment

variable {f g : Fragment} {stage : Stage}

theorem registered_add_eq (hf : f.registered = registeredWithin f.stages)
    (halone : stage.isJoin = false) :
    (f.add stage).registered = registeredWithin (f.add stage).stages := by
  rw [stages_add, registeredWithin_append, registeredWithin_singleton,
    Stage.registersWithin_of_not_join halone, ← hf]
  rfl

theorem registered_endSide_eq {j : Join} {side : Source} {label : String} {window : JoinWindow}
    (hf : f.registered = registeredWithin f.stages) :
    (j.endSide side label window f).registered =
      registeredWithin (j.endSide side label window f).stages := by
  rw [Join.registered_endSide, Join.stages_endSide, registeredWithin_append, ← hf]
  exact (List.append_nil _).symm

/-- A join registers its window and copies what its sides have before it is added. -/
theorem registered_addJoin_eq {label rightDependency : String} {window : JoinWindow}
    {left right : Fragment} (hf : f.registered = registeredWithin f.stages)
    (hleft : left.registered = registeredWithin left.stages)
    (hright : right.registered = registeredWithin right.stages) :
    (f.addJoin label window left right rightDependency).registered =
      registeredWithin (f.addJoin label window left right rightDependency).stages := by
  have hregistered : (f.addJoin label window left right rightDependency).registered =
      f.registered ++ (.window window :: left.registered ++ right.registered) :=
    List.append_nil _
  have hstages : (f.addJoin label window left right rightDependency).stages =
      f.stages ++ [.join label window left.toHeader left.stages right.toHeader right.stages
        rightDependency] := rfl
  rw [hregistered, hstages, registeredWithin_append, registeredWithin_singleton,
    Stage.registersWithin, hf, hleft, hright]
  rfl

theorem Grows.registered_eq (h : f.Grows g) (hf : f.registered = registeredWithin f.stages) :
    g.registered = registeredWithin g.stages := by
  induction h with
  | refl => exact hf
  | add _ hplain ih => exact registered_add_eq (ih hf) (Stage.isJoin_of_isPlain hplain)
  | dependOn _ ih => exact ih hf
  | @reference _ _ label name _ ih =>
    have halone : (Stage.reference label name).isJoin = false := rfl
    exact registered_add_eq (ih hf) halone
  | join _ _ _ _ ih ihleft ihright =>
    exact registered_addJoin_eq (ih hf) (registered_endSide_eq (ihleft rfl))
      (registered_endSide_eq (ihright rfl))

end Fragment

theorem Stage.Grown.sidesRegister {space : String} {stage : Stage} (h : stage.Grown space) :
    stage.SidesRegister := by
  cases h with
  | alone halone =>
    cases stage with
    | join => cases halone
    | _ => trivial
  | join _ hleft hright =>
    exact ⟨Fragment.registered_endSide_eq (hleft.registered_eq rfl),
      Fragment.registered_endSide_eq (hright.registered_eq rfl)⟩

/-- Whatever grows from an empty fragment has all on it that its stages register. -/
theorem Fragment.Grows.registersAll {f g : Fragment} (h : f.Grows g) (hstages : f.stages = [])
    (hregistered : f.registered = []) : g.RegistersAll where
  registered_eq := h.registered_eq (by rw [hstages, hregistered]; rfl)
  within stage hstage := (h.grown (forall_within_of_empty hstages) stage hstage).sidesRegister

/-! ## Plans -/

/-- A walk through the stages of a plan comes to the windows and filters in the order in which they
are registered. So it does in each fragment of the plan. -/
theorem registered_in_order_of_stages :
    (∀ {src : Source} {place : Place} {role : Role} {s t : Site},
      s.fragment.stages = [] → s.fragment.registered = [] →
        src.build place role s = .ok () t → t.fragment.RegistersAll) ∧
    ∀ {statement : Statement} {catalog : Catalog} {settings : Settings} {role : Role} {plan : Plan},
      statement.compile catalog settings role = .ok plan → plan.root.RegistersAll := by
  constructor
  · intro src place role s t hstages hregistered h
    exact (Source.builds_of_build h).grows.registersAll hstages hregistered
  · intro statement catalog settings role plan h
    obtain ⟨j, m, site, hbuild, hgains, hroot⟩ := Statement.gains_of_compile h
    have hgrows := (Source.builds_of_build hbuild).grows.trans hgains.grows
    exact hroot ▸ hgrows.registersAll rfl rfl

open GroupedQuery in
/-- Two windows and a filter are registered at the root of the one plan, and a window and two filters
at that of the other. -/
theorem registered_in_order_of_stages_regionalOrders :
    (∃ t, Join.regionalOrders.toSource.build [] .root (Build.start "default" "orders") = .ok () t ∧
      (t.fragment.windows.length, t.fragment.registered.length) = (2, 3) ∧
      t.fragment.RegistersAll) ∧
    ∃ plan, (paidOrders .left paidById).compileWith ledger .default true = .ok plan ∧
      (plan.root.windows.length, plan.root.registered.length) = (1, 3) ∧
      plan.root.RegistersAll := by
  constructor
  · obtain ⟨t, h⟩ := Join.regionalOrders_builds .root (Build.start "default" "orders")
    have hplan :
        (EStateM.run' (Join.regionalOrders.build .root >>= fun _ => Build.fragment)
          (Build.start "default" "orders")).map
            (fun f => (f.windows.length, f.registered.length)) = some (2, 3) := by
      decide +kernel
    rw [Build.run'_fragment h] at hplan
    exact ⟨t, h, Option.some.inj hplan, registered_in_order_of_stages.1 rfl rfl h⟩
  · obtain ⟨plan, hplan, hlengths⟩ := Outcome.toOption_map_eq_some.mp (show ((paidOrders .left
      paidById).compileWith ledger .default true).toOption.map
        (fun plan => (plan.root.windows.length, plan.root.registered.length)) = some (1, 3) by
        decide +kernel)
    exact ⟨plan, hplan, hlengths, registered_in_order_of_stages.2 hplan⟩

end JoinPlan
