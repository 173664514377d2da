import JoinPlan.Json.Printer
import JoinPlan.Predicate.Basic
import JoinPlan.Row

/-!
# Predicates on rows

`Predicate.evaluate` answers whether a row satisfies a predicate, or says why there is no answer.
A comparison with a null is false. `Predicate.accepts` takes no answer for false, so that one bad row
does not stop a stream.
-/

namespace JoinPlan

inductive EvalError where
  /-- The list of an IN stands where a single value belongs. -/
  | listAsScalar (content : String)
  /-- An IN has a column on its right. -/
  | inColumn (column : String)
  | typeMismatch (left : Json) (op : CompareOp) (right : Json)
  /-- Texts and truth values are compared for equality only. -/
  | unordered (op : CompareOp) (type : String)

def EvalError.text : EvalError → String
  | .listAsScalar content => "value list " ++ content ++ " used as a scalar"
  | .inColumn column => "IN requires a value list, got field " ++ column
  | .typeMismatch left op right =>
    "type mismatch comparing " ++ left.text ++ " " ++ op.symbol ++ " " ++ right.text
  | .unordered op type => "operator " ++ op.symbol ++ " is not defined for " ++ type ++ " values"

/-! ## Comparing values -/

/-- A JSON number as a double. Whole numbers beyond 53 bits are rounded. -/
def Json.number? : Json → Option Double
  | .int i => some (Double.ofInt i)
  | .double d => some d
  | _ => none

namespace CompareOp

/-- The answer of a comparison to the order of its two sides. -/
def ofOrdering (op : CompareOp) (o : Ordering) : Bool :=
  match op with
  | .eq | .isIn => o == .eq
  | .notEq | .notIn => o != .eq
  | .lt => o == .lt
  | .ltEq => o != .gt
  | .gt => o == .gt
  | .gtEq => o != .lt

/-- The answer of a comparison for values that are equal or not and have no order. -/
def ofEquality (op : CompareOp) (type : String) (equal : Bool) : Except EvalError Bool :=
  match op with
  | .eq => .ok equal
  | .notEq => .ok (!equal)
  | op => .error (.unordered op type)

/-- Compares two values that are not null. -/
def onValues (op : CompareOp) (left right : Json) : Except EvalError Bool :=
  match left.number?, right.number? with
  | some a, some b => .ok (op.ofOrdering (a.compare b))
  | _, _ =>
    match left, right with
    | .string a, .string b => op.ofEquality "string" (a == b)
    | .bool a, .bool b => op.ofEquality "boolean" (a == b)
    | left, right => .error (.typeMismatch left op right)

/-- Compares two values. A null is neither equal nor unequal to anything. -/
def onNullable (op : CompareOp) (left right : Json) : Except EvalError Bool :=
  if left.isNull || right.isNull then .ok false else op.onValues left right

end CompareOp

/-! ## Comparisons -/

/-- The single value of a literal. -/
def Literal.value : Literal → Except EvalError Json
  | .scalar _ c => .ok c.toJson
  | .list content _ => .error (.listAsScalar content)

/-- The value of an operand in a row: that under the text of a column, or null. -/
def Operand.value (row : Row) : Operand → Except EvalError Json
  | .column c => .ok (row.valueAt c.text)
  | .literal l => l.value

/-- The items on the right of an IN. A single literal is a list of its own. -/
def Operand.items : Operand → Except EvalError (List Literal)
  | .column c => .error (.inColumn c.text)
  | .literal (.list _ items) => .ok items
  | .literal l => .ok [l]

/-- Whether a value is equal to one of the literals, which are asked from left to right. -/
def isMember (value : Json) : List Literal → Except EvalError Bool
  | [] => .ok false
  | l :: ls =>
    match l.value with
    | .error e => .error e
    | .ok item =>
      match CompareOp.eq.onNullable value item with
      | .error e => .error e
      | .ok true => .ok true
      | .ok false => isMember value ls

/-- Whether a value that is not null is in the list of an IN, or not in that of a NOT IN. -/
def CompareOp.onItems (op : CompareOp) (value : Json) (right : Operand) : Except EvalError Bool :=
  match right.items with
  | .error e => .error e
  | .ok items =>
    if value.isNull then .ok false
    else (isMember value items).map fun found => found == (op == .isIn)

def Comparison.evaluate (c : Comparison) (row : Row) : Except EvalError Bool :=
  match c.left.value row with
  | .error e => .error e
  | .ok left =>
    if c.op = .isIn ∨ c.op = .notIn then c.op.onItems left c.right
    else
      match c.right.value row with
      | .error e => .error e
      | .ok right => c.op.onNullable left right

/-! ## Predicates -/

namespace Predicate

mutual
def evaluate : Predicate → Row → Except EvalError Bool
  | .leaf c, row => c.evaluate row
  | .node _ .and children, row => evaluateAll children row
  | .node _ .or children, row => evaluateAny children row

/-- Whether all hold. The parts behind the first that does not are not asked. -/
def evaluateAll : List Predicate → Row → Except EvalError Bool
  | [], _ => .ok true
  | p :: ps, row =>
    match evaluate p row with
    | .ok true => evaluateAll ps row
    | answer => answer

/-- Whether one holds. The parts behind the first that does are not asked. -/
def evaluateAny : List Predicate → Row → Except EvalError Bool
  | [], _ => .ok false
  | p :: ps, row =>
    match evaluate p row with
    | .ok false => evaluateAny ps row
    | answer => answer
end

/-- Whether a row satisfies the predicate. A predicate without an answer is not satisfied. -/
def accepts (p : Predicate) (row : Row) : Bool :=
  match p.evaluate row with
  | .ok answer => answer
  | .error _ => false

end Predicate

end JoinPlan
