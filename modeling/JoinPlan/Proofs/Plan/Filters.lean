import JoinPlan.Plan.Stage
import JoinPlan.Join.Source

/-!
# The filters of a plan

The predicates that the rows of a fragment are tested with, and those that the rows of a side are
tested with before they are joined.
-/

namespace JoinPlan

/-- The predicate of a filter. -/
def Stage.filter? : Stage → Option Predicate
  | .filter f => some f.predicate
  | _ => none

/-- The predicates of the filters among some stages, without those within a join. -/
def filtersAmong (stages : List Stage) : List Predicate :=
  stages.filterMap Stage.filter?

/-- The predicates of the filters in the fragment of a side, where the stage is a join. -/
def Stage.filtersOn (side : Side) : Stage → List Predicate
  | .join _ _ _ left _ right _ =>
    match side with
    | .left => filtersAmong left
    | .right => filtersAmong right
  | _ => []

/-- The predicates of the filters in the fragments of a side of the joins among some stages. -/
def sideFiltersAmong (side : Side) (stages : List Stage) : List Predicate :=
  stages.flatMap (Stage.filtersOn side)

@[simp] theorem filtersAmong_nil : filtersAmong [] = [] := rfl

@[simp] theorem filtersAmong_cons (stage : Stage) (rest : List Stage) :
    filtersAmong (stage :: rest) = stage.filter?.toList ++ filtersAmong rest := by
  unfold filtersAmong
  cases h : stage.filter? <;> simp [h]

theorem filtersAmong_append (as bs : List Stage) :
    filtersAmong (as ++ bs) = filtersAmong as ++ filtersAmong bs :=
  List.filterMap_append

theorem sideFiltersAmong_append (side : Side) (as bs : List Stage) :
    sideFiltersAmong side (as ++ bs) = sideFiltersAmong side as ++ sideFiltersAmong side bs :=
  List.flatMap_append

@[simp] theorem Fragment.stages_new (space name : String) : (Fragment.new space name).stages = [] :=
  rfl

@[simp] theorem Fragment.stages_add (f : Fragment) (s : Stage) :
    (f.add s).stages = f.stages ++ [s] :=
  rfl

@[simp] theorem Fragment.stages_dependOn (f : Fragment) (stream : Option String) :
    (f.dependOn stream).stages = f.stages :=
  rfl

end JoinPlan
