import JoinPlan.Calculation
import JoinPlan.Join.Window

/-!
# Fragments of a plan

A fragment is a list of stages that rows go through in order. A join of two streams is one stage that
holds a fragment for each side.
-/

namespace JoinPlan

structure Filter where
  label : String
  predicate : Predicate
deriving Inhabited

/-- What has to be set up before a fragment runs. -/
inductive Registered where
  | window (w : JoinWindow)
  | filter (f : Filter)

def Registered.name : Registered → String
  | .window w => w.name
  | .filter f => f.label

/-- What is known of a fragment beside its stages. -/
structure Header where
  space : String
  name : String
  registered : List Registered
  /-- The name under which rows arrive, where a table is joined to itself. -/
  arrival : Option String
  /-- The stream that the fragment reads. -/
  dependency : Option String
  /-- Whether the fragment ends with a reference to another one. -/
  isBreak : Bool

instance : Inhabited Header := ⟨⟨"", "", [], none, none, false⟩⟩

/-! ## Stages -/

inductive Stage where
  /-- Reads a stream. -/
  | source (label table : String) (asName : Option String)
  | filter (f : Filter)
  /-- Looks rows up in a dimension table. -/
  | lookup (label table : String) (asName : Option String) (kind : JoinKind) (on : JoinCondition)
  /-- Makes of each row the rows that a table function gives for it. -/
  | expand (label function : String) (args : List String) (asName : Option String)
      (columns : List String) (kind : JoinKind)
  /-- Hands rows to the window of a join. -/
  | emit (label : String) (window : JoinWindow)
  /-- Joins two streams. -/
  | join (label : String) (window : JoinWindow) (left : Header) (leftStages : List Stage)
      (right : Header) (rightStages : List Stage) (rightDependency : String)
  /-- Stands for a fragment that is part of the plan already. -/
  | reference (label fragment : String)
  | group (label : String) (keys : List Column) (aggregates : List (Aggregate × String))
      (functions : List FunctionCall)
  /-- Runs functions on rows that are not grouped. -/
  | enrich (label : String) (functions : List FunctionCall)
  /-- Keeps the groups that a predicate accepts. -/
  | having (label content : String) (predicate : Predicate)
deriving Inhabited

namespace Stage

def label : Stage → String
  | .source label .. => label
  | .filter f => f.label
  | .lookup label .. => label
  | .expand label .. => label
  | .emit label _ => label
  | .join label .. => label
  | .reference label _ => label
  | .group label .. => label
  | .enrich label _ => label
  | .having label _ _ => label

def kindName : Stage → String
  | .source .. => "Source"
  | .filter _ => "Filter"
  | .lookup .. => "DimensionJoin"
  | .expand .. => "LateralJoin"
  | .emit .. => "WindowEmit"
  | .join .. => "Join"
  | .reference .. => "RightJoinRef"
  | .group .. => "GroupBy"
  | .enrich .. => "Enrich"
  | .having .. => "Having"

/-- What a stage registers when it is added to a fragment. -/
def registered : Stage → List Registered
  | .filter f => [.filter f]
  | _ => []

end Stage

/-! ## Fragments -/

structure Fragment extends Header where
  stages : List Stage

instance : Inhabited Fragment := ⟨⟨default, []⟩⟩

namespace Fragment

def new (space name : String) : Fragment :=
  ⟨⟨space, name, [], none, none, false⟩, []⟩

def add (f : Fragment) (s : Stage) : Fragment :=
  { f with registered := f.registered ++ s.registered, stages := f.stages ++ [s] }

def register (f : Fragment) (rs : List Registered) : Fragment :=
  { f with registered := f.registered ++ rs }

/-- The fragment with a dependency, unless it has one already. -/
def dependOn (f : Fragment) (stream : Option String) : Fragment :=
  { f with dependency := f.dependency.or stream }

def windows (f : Fragment) : List JoinWindow :=
  f.registered.filterMap fun
    | .window w => some w
    | .filter _ => none

def lastStage (f : Fragment) : Option Stage :=
  f.stages.getLast?

end Fragment

/-! ## Filters in a plan -/

/-- The predicates that rows are tested with, each under the label of its stage. A stage that joins
two streams has those of its left side and then those of its right side. -/
def filtersOf : List Stage → List (String × Predicate)
  | [] => []
  | .filter f :: rest => (f.label, f.predicate) :: filtersOf rest
  | .having label _ p :: rest => (label, p) :: filtersOf rest
  | .join _ _ _ left _ right _ :: rest => filtersOf left ++ filtersOf right ++ filtersOf rest
  | _ :: rest => filtersOf rest

end JoinPlan
