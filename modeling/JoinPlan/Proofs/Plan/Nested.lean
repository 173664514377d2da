import JoinPlan.Plan.Stage
import Mathlib.Data.List.Lattice
import Mathlib.Data.List.Nodup
import Mathlib.Data.List.Pairwise

/-!
# Stages at every depth

A stage that joins two streams holds the stages of two fragments, which can join streams again. What
a plan names, and what it refers to, stands in stages at any depth.
-/

namespace JoinPlan

/-! ## Stages within stages -/

mutual
/-- A stage and the stages of the fragments that it holds, at every depth. -/
def Stage.within : Stage → List Stage
  | .join label window left leftStages right rightStages rightDependency =>
    .join label window left leftStages right rightStages rightDependency ::
      (stagesWithin leftStages ++ stagesWithin rightStages)
  | stage => [stage]

def stagesWithin : List Stage → List Stage
  | [] => []
  | stage :: rest => stage.within ++ stagesWithin rest
end

theorem stagesWithin_append (as bs : List Stage) :
    stagesWithin (as ++ bs) = stagesWithin as ++ stagesWithin bs := by
  induction as with
  | nil => rfl
  | cons stage as ih => rw [List.cons_append, stagesWithin, ih, stagesWithin, List.append_assoc]

@[simp] theorem stagesWithin_singleton (stage : Stage) : stagesWithin [stage] = stage.within := by
  rw [stagesWithin, stagesWithin, List.append_nil]

/-! ## Names -/

namespace Stage

/-- The names of the fragments that a stage holds. -/
def fragmentNames : Stage → List String
  | .join _ _ left _ right _ _ => [left.name, right.name]
  | _ => []

/-- The name of the fragment that a stage refers to. -/
def reference? : Stage → Option String
  | .reference _ fragment => some fragment
  | _ => none

/-- The names that are made for a stage: its label, those of a window and two fragments where it
joins streams, and that of the fragment it refers to. -/
def names : Stage → List String
  | .join label window left _ right _ _ => [label, window.name, left.name, right.name]
  | .reference label fragment => [label, fragment]
  | stage => [stage.label]

end Stage

/-- The names that are made for some stages and the stages within them. -/
def namesWithin (stages : List Stage) : List String :=
  (stagesWithin stages).flatMap Stage.names

/-- The names of the fragments that some stages refer to, at every depth. -/
def referencesWithin (stages : List Stage) : List String :=
  (stagesWithin stages).filterMap Stage.reference?

theorem namesWithin_append (as bs : List Stage) :
    namesWithin (as ++ bs) = namesWithin as ++ namesWithin bs := by
  rw [namesWithin, stagesWithin_append, List.flatMap_append]
  rfl

theorem namesWithin_join (label : String) (window : JoinWindow) (left : Header)
    (leftStages : List Stage) (right : Header) (rightStages : List Stage)
    (rightDependency : String) :
    namesWithin [.join label window left leftStages right rightStages rightDependency] =
      [label, window.name, left.name, right.name] ++
        (namesWithin leftStages ++ namesWithin rightStages) := by
  rw [namesWithin, stagesWithin_singleton, Stage.within, List.flatMap_cons, List.flatMap_append]
  rfl

theorem referencesWithin_append (as bs : List Stage) :
    referencesWithin (as ++ bs) = referencesWithin as ++ referencesWithin bs := by
  rw [referencesWithin, stagesWithin_append, List.filterMap_append]
  rfl

theorem referencesWithin_join (label : String) (window : JoinWindow) (left : Header)
    (leftStages : List Stage) (right : Header) (rightStages : List Stage)
    (rightDependency : String) :
    referencesWithin [.join label window left leftStages right rightStages rightDependency] =
      referencesWithin leftStages ++ referencesWithin rightStages := by
  rw [referencesWithin, stagesWithin_singleton, Stage.within, List.filterMap_cons_none rfl,
    List.filterMap_append]
  rfl

/-! ## Fragments -/

namespace Fragment

/-- The names of the fragments that a plan refers to. -/
def references (f : Fragment) : List String :=
  referencesWithin f.stages

/-- The names of the fragments of a plan: its own and those within it. -/
def fragmentNames (f : Fragment) : List String :=
  f.name :: (stagesWithin f.stages).flatMap Stage.fragmentNames

end Fragment

end JoinPlan
