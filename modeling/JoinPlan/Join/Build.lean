import JoinPlan.ErrorKind
import JoinPlan.Join.Source
import JoinPlan.NameSupply
import JoinPlan.Plan.Stage

/-!
# Building fragments from sources

`Source.build` adds the stages that read a source to a fragment. A table of its own is one stage. A
join of streams is one stage with a fragment for each side, and other joins add a stage behind those
of their left side. A build that fails has taken the names that it asked for before.
-/

namespace JoinPlan

inductive BuildError where
  /-- The catalog does not have the table. -/
  | unknownTable (name : String)
  /-- The condition of a join of streams makes no keys. -/
  | keys (e : KeyError)
  | noCondition (left right : String)
  /-- A condition names a column of neither side. -/
  | unknownColumn (column content : String)
  /-- A dimension table stands where rows have to come from. -/
  | dimensionAlone (table : String)
deriving DecidableEq, Repr

def BuildError.text : BuildError → String
  | .unknownTable name => "unknown table: " ++ name
  | .keys e => e.text
  | .noCondition left right => "join of " ++ left ++ " and " ++ right ++ " requires an ON condition"
  | .unknownColumn column content =>
    "unknown field " ++ column ++ " in join condition: " ++ content
  | .dimensionAlone table => "dimension table " ++ table ++ " can only be read through a join"

/-- What part of a join of streams a fragment is. -/
inductive Role where
  | root
  | left
  /-- The right side of a join whose right side reads the table. -/
  | right (table : String)
deriving DecidableEq, Repr, Inhabited

/-- A place in a source: the sides that lead there from the top. -/
abbrev Place := List Side

/-- A fragment under construction and what all fragments of a plan share. -/
structure Site where
  names : NameSupply
  /-- The names of the right fragments of joins, by the places of the joins. A join keeps the name of
  its right fragment when it is built again. -/
  rightNames : List (Place × String)
  fragment : Fragment
deriving Inhabited

/-- A step of a build. One that fails leaves on the site what it did before. -/
abbrev Build := EStateM BuildError Site

namespace Build

/-- A site with an empty fragment on which no name is taken. -/
def start (space name : String) : Site :=
  ⟨.new, [], .new space name⟩

/-! ## Steps -/

def fragment : Build Fragment := fun s => .ok s.fragment s

def onFragment (f : Fragment → Fragment) : Build Unit := fun s =>
  .ok () { s with fragment := f s.fragment }

def freshName (parts : List String) : Build String := fun s =>
  let (name, names) := s.names.fresh parts
  .ok name { s with names := names }

/-- A label for a stage: the name of the fragment and the given parts. -/
def freshLabel (parts : List String) : Build String := do
  freshName ((← fragment).name :: parts)

/-- Adds a stage with a label of its own. -/
def addStage (parts : List String) (stage : String → Stage) : Build Unit := do
  let label ← freshLabel parts
  onFragment (·.add (stage label))

/-- The fragment that a build makes under a new name. The fragment around it stays as it is. -/
def nested (name : String) (b : Build Unit) : Build Fragment := fun s =>
  match b { s with fragment := .new s.fragment.space name } with
  | .ok _ t => .ok t.fragment { t with fragment := s.fragment }
  | .error e t => .error e { t with fragment := s.fragment }

/-- The name of the right fragment of a join, which is made when it is first asked for. -/
def rightName (place : Place) : Build String := fun s =>
  match s.rightNames.lookup place with
  | some name => .ok name s
  | none =>
    let (name, names) := s.names.fresh [s.fragment.name, "subpipeline", "join", "right"]
    .ok name { s with names := names, rightNames := (place, name) :: s.rightNames }

def ofKeys {α : Type} : Except KeyError α → Build α
  | .ok a => pure a
  | .error e => throw (.keys e)

end Build

/-! ## Tables -/

open Build

/-- Reads a stream and tests its rows with the filters. The fragment depends on the first stream
that is read in it. -/
def buildStream (t : Table) (filters : List Predicate) : Build Unit := do
  addStage ["source", t.name] fun label => .source label t.name t.asName
  onFragment (·.dependOn t.name)
  match Predicate.andAll filters with
  | some p => addStage ["filter"] fun label => .filter ⟨label, p⟩
  | none => pure ()

def buildLookup (t : Table) (kind : JoinKind) (on : JoinCondition) : Build Unit :=
  addStage ["dim", t.name] fun label => .lookup label t.name t.asName kind on

def buildExpand (t : Table) (function : String) (args : List String) (kind : JoinKind) : Build Unit :=
  addStage ["lateral", function] fun label => .expand label function args t.asName t.columns kind

/-! ## Joins -/

namespace Join

def requireCondition (j : Join) : Build JoinCondition :=
  match j.on with
  | some on => pure on
  | none => throw (.noCondition j.left.tableName j.right.tableName)

/-- The first column of a condition that belongs to neither side. -/
def unknownColumn? (j : Join) (on : JoinCondition) : Option Column :=
  on.predicate.columns.find? fun c => c.text == "" || (j.columnText c.text).isNone

def checkColumns (j : Join) (on : JoinCondition) : Build Unit :=
  match j.unknownColumn? on with
  | some c => throw (.unknownColumn c.text on.content)
  | none => pure ()

/-- Whether a fragment in this role is the right side of the join itself. -/
def isOwnRight (j : Join) : Role → Bool
  | .right table => j.right.tableName == table
  | .root | .left => false

/-- Whether both sides are named after one table. -/
def isSelfJoin (j : Join) : Bool :=
  j.left.tableName == j.right.tableName

/-- The right side of a join in its own right fragment: a reference, behind which nothing comes. -/
def buildReference (place : Place) : Build Unit := do
  let name ← rightName place
  let label ← freshName [name, "ref"]
  onFragment fun f => { f.add (.reference label name) with isBreak := true }

/-- Hands the rows of a fragment to a window. -/
def buildEmit (window : JoinWindow) : Build Unit :=
  addStage ["emit"] fun label => .emit label window

/-- A fragment of a join with a table's own name for its rows, if the join needs one. -/
def withArrival (j : Join) (s : Source) (f : Fragment) : Fragment :=
  if j.isSelfJoin then { f with arrival := some s.arrivalName } else f

/-- What the right stream of a join is wired up by. -/
def rightDependency (j : Join) : String :=
  if j.isSelfJoin then j.right.arrivalName else j.right.tableName

/-- A join of streams, given how its two sides are built. -/
def buildWindow (j : Join) (left right : Role → Build Unit) (place : Place) : Build Unit := do
  let on ← j.requireCondition
  let parent ← fragment
  let windowName ← freshLabel ["join", "window"]
  let window ← ofKeys
    (JoinWindow.ofCondition parent.space windowName on j.kind j.left.scope j.right.scope)
  let leftName ← freshLabel ["subpipeline", "join", "left"]
  let left ← nested leftName do
    left .left
    buildEmit window
  let rightName ← rightName place
  let right ← nested rightName do
    right (.right j.right.tableName)
    buildEmit window
  let left := j.withArrival j.left left
  let right := j.withArrival j.right right
  onFragment fun f =>
    (f.register (.window window :: left.registered ++ right.registered)).dependOn left.dependency
  addStage ["join"] fun label =>
    .join label window left.toHeader left.stages right.toHeader right.stages j.rightDependency

/-- A join, given how its two sides are built. -/
def buildWith (j : Join) (left right : Role → Build Unit) (place : Place) (role : Role) :
    Build Unit := do
  match j.right with
  | .dimension t =>
    let on ← j.requireCondition
    j.checkColumns on
    left role
    buildLookup t j.kind on
  | .lateral t function args =>
    match j.on with
    | some on => j.checkColumns on
    | none => pure ()
    left role
    buildExpand t function args j.kind
  | .stream .. | .join .. =>
    if j.isOwnRight role then buildReference place else j.buildWindow left right place

end Join

/-- Adds the stages that read a source at a place. -/
def Source.build : Source → Place → Role → Build Unit
  | .stream t filters, _, _ => buildStream t filters
  | .dimension t, _, _ => throw (.dimensionAlone t.name)
  | .lateral t function args, _, _ => buildExpand t function args .inner
  | .join left right kind on, place, role =>
    Join.buildWith ⟨left, right, kind, on⟩ (left.build (place ++ [.left]))
      (right.build (place ++ [.right])) place role

/-- Adds the stages of a join that is at the top. -/
def Join.build (j : Join) (role : Role) : Build Unit :=
  j.toSource.build [] role

end JoinPlan
