import JoinPlan.Join.Condition
import JoinPlan.Predicate.Normal
import JoinPlan.Scope

/-!
# Keys of a join

Two streams are matched by keys: pairs of columns, one of each side, that the condition demands to be
equal. What the condition demands beyond that is left over, and the whole condition has to be tested
on every match.
-/

namespace JoinPlan

structure KeyPair where
  left : String
  right : String
deriving DecidableEq, Repr

structure JoinKeys where
  pairs : List KeyPair
  /-- Whether some part of the condition is not covered by the keys. -/
  residual : Bool
deriving DecidableEq, Repr

inductive KeyError where
  /-- The condition is a disjunction. -/
  | disjunction (content : String)
  /-- No part of the condition is a comparison. -/
  | noComparison (content : String)
  /-- An equality starts with a column of neither side. -/
  | unknownColumn (column content : String)
  /-- No part of the condition makes a key. -/
  | noKey (content : String)
deriving DecidableEq, Repr

def KeyError.text : KeyError → String
  | .disjunction content => "join can not have or condition: " ++ content
  | .noComparison content =>
    "can not find join condition for stream join, join can not have 'or' condition: " ++ content
  | .unknownColumn column content =>
    "parser join condition error, " ++ column ++ " is unknown to both sides: " ++ content
  | .noKey content => "can not find equi-join field in condition: " ++ content

namespace JoinKeys

def leftKeys (k : JoinKeys) : List String :=
  k.pairs.map (·.left)

def rightKeys (k : JoinKeys) : List String :=
  k.pairs.map (·.right)

/-! ## Single comparisons -/

/-- The two columns of an equality between columns. -/
def equatedColumns (c : Comparison) : Option (Column × Column) :=
  match c.op, c.left, c.right with
  | .eq, .column a, .column b => some (a, b)
  | _, _, _ => none

/-- The key that a column means on one side, or its own name where the side does not know it. -/
def keyOn (side : Scope) (c : Column) : String :=
  ((side.resolve c.text).map Column.text).getD c.name

/-- The pair that two equated columns make. The first one decides which of them is on the left. -/
def pairOf (left right : Scope) (a b : Column) : Option KeyPair :=
  if a.text = b.text then some ⟨b.name, b.name⟩
  else
    match left.resolve a.text with
    | some c => some ⟨c.text, keyOn right b⟩
    | none => (right.resolve a.text).map fun c => ⟨keyOn left b, c.text⟩

/-! ## Conditions -/

/-- The parts of a condition in normal form that can make keys, from left to right. They are told by
the names of the parts. -/
def candidates (root : Predicate) (content : String) : Except KeyError (List Comparison) :=
  match root with
  | .leaf c => .ok [c]
  | .node _ .or _ => .error (.disjunction content)
  | .node _ .and _ =>
    match root.leaves.filter (·.name ∈ root.childNames) with
    | [] => .error (.noComparison content)
    | cs => .ok cs

/-- The pairs with one more behind them, unless it is among them. -/
def addPair (pairs : List KeyPair) (p : KeyPair) : List KeyPair :=
  if p ∈ pairs then pairs else pairs ++ [p]

/-- The keys that a list of comparisons adds to those found before it. -/
def collect (left right : Scope) (content : String) :
    JoinKeys → List Comparison → Except KeyError JoinKeys
  | found, [] => .ok found
  | found, c :: cs =>
    match equatedColumns c with
    | none => collect left right content { found with residual := true } cs
    | some (a, b) =>
      match pairOf left right a b with
      | none => .error (.unknownColumn a.text content)
      | some p => collect left right content { found with pairs := addPair found.pairs p } cs

/-- The keys of a condition. The comparisons below the top of the condition are left over. -/
def ofCondition (on : JoinCondition) (left right : Scope) : Except KeyError JoinKeys := do
  let root := on.predicate.normalize
  let cs ← candidates root on.content
  let keys ← collect left right on.content ⟨[], decide (cs.length < root.leaves.length)⟩ cs
  if keys.pairs.isEmpty then .error (.noKey on.content) else .ok keys

end JoinKeys

end JoinPlan
