import JoinPlan.Column
import JoinPlan.Json.Basic

/-!
# Predicates

A predicate compares columns with literals or with each other and joins comparisons by AND and OR.
Every node has a name, which is empty until `Predicate.normalize` gives it one.
-/

namespace JoinPlan

/-! ## Literals -/

inductive Constant where
  | int (i : Int)
  | double (d : Double)
  | text (s : String)
  | bool (b : Bool)
  | null
deriving DecidableEq, Repr, Inhabited

/-- The value of a constant in a row. -/
def Constant.toJson : Constant → Json
  | .int i => .int i
  | .double d => .ofDouble d
  | .text s => .string s
  | .bool b => .bool b
  | .null => .null

/-- A literal and its text in the statement. The list of an IN is a literal of its own. -/
inductive Literal where
  | scalar (content : String) (value : Constant)
  | list (content : String) (items : List Literal)
deriving Inhabited

def Literal.content : Literal → String
  | .scalar content _ => content
  | .list content _ => content

/-! ## Comparisons -/

inductive CompareOp where
  | eq | notEq | lt | ltEq | gt | gtEq | isIn | notIn
deriving DecidableEq, Repr, Inhabited

namespace CompareOp

def symbol : CompareOp → String
  | .eq => "="
  | .notEq => "<>"
  | .lt => "<"
  | .ltEq => "<="
  | .gt => ">"
  | .gtEq => ">="
  | .isIn => "IN"
  | .notIn => "NOT IN"

/-- Only an equality can make a key of a join. -/
def isEquality (op : CompareOp) : Bool :=
  op == .eq

end CompareOp

inductive Operand where
  | column (c : Column)
  | literal (l : Literal)
deriving Inhabited

namespace Operand

def text : Operand → String
  | .column c => c.text
  | .literal l => l.content

def column? : Operand → Option Column
  | .column c => some c
  | .literal _ => none

def literal? : Operand → Option Literal
  | .column _ => none
  | .literal l => some l

/-- The operand with its column replaced where `f` knows it. -/
def mapColumn (f : Column → Option Column) : Operand → Operand
  | .column c => .column ((f c).getD c)
  | .literal l => .literal l

end Operand

structure Comparison where
  name : String
  left : Operand
  op : CompareOp
  right : Operand
deriving Inhabited

namespace Comparison

def columns (c : Comparison) : List Column :=
  [c.left, c.right].filterMap Operand.column?

def mapColumns (f : Column → Option Column) (c : Comparison) : Comparison :=
  { c with left := c.left.mapColumn f, right := c.right.mapColumn f }

def text (c : Comparison) : String :=
  c.left.text ++ " " ++ c.op.symbol ++ " " ++ c.right.text

end Comparison

/-! ## Predicates -/

inductive Connective where
  | and | or
deriving DecidableEq, Repr, Inhabited

def Connective.keyword : Connective → String
  | .and => "AND"
  | .or => "OR"

inductive Predicate where
  | leaf (c : Comparison)
  | node (name : String) (connective : Connective) (children : List Predicate)
deriving Inhabited

namespace Predicate

/-- A comparison without a name. -/
def compare (left : Operand) (op : CompareOp) (right : Operand) : Predicate :=
  .leaf ⟨"", left, op, right⟩

def and (children : List Predicate) : Predicate :=
  .node "" .and children

def or (children : List Predicate) : Predicate :=
  .node "" .or children

/-- The conjunction of a list, or none when the list is empty. A single predicate stands for
itself. -/
def andAll : List Predicate → Option Predicate
  | [] => none
  | [p] => some p
  | ps => some (.and ps)

def name : Predicate → String
  | .leaf c => c.name
  | .node name _ _ => name

def children : Predicate → List Predicate
  | .leaf _ => []
  | .node _ _ children => children

def childNames (p : Predicate) : List String :=
  p.children.map name

mutual
/-- The comparisons from left to right. -/
def leaves : Predicate → List Comparison
  | .leaf c => [c]
  | .node _ _ children => leavesOf children

def leavesOf : List Predicate → List Comparison
  | [] => []
  | p :: ps => leaves p ++ leavesOf ps
end

/-- The columns that a predicate reads, from left to right. -/
def columns (p : Predicate) : List Column :=
  p.leaves.flatMap Comparison.columns

mutual
/-- The parts of a conjunction, with conjunctions among them split as well. -/
def conjuncts : Predicate → List Predicate
  | .node _ .and children => conjunctsOf children
  | p => [p]

def conjunctsOf : List Predicate → List Predicate
  | [] => []
  | p :: ps => conjuncts p ++ conjunctsOf ps
end

mutual
/-- The predicate with each column replaced where `f` knows it. -/
def mapColumns (f : Column → Option Column) : Predicate → Predicate
  | .leaf c => .leaf (c.mapColumns f)
  | .node name connective children => .node name connective (mapColumnsOf f children)

def mapColumnsOf (f : Column → Option Column) : List Predicate → List Predicate
  | [] => []
  | p :: ps => mapColumns f p :: mapColumnsOf f ps
end

end Predicate

end JoinPlan
