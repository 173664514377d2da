import JoinPlan.Decimal.Reader
import JoinPlan.Statement.Reader.Call

/-!
# Reading conditions

The predicate of an SQL expression: comparisons and lists of literals, joined by AND and OR. A call
in a condition stands for the column of the select list that is calculated by the same call.
-/

namespace JoinPlan.Reader

variable (D : Sql.Dialect)

/-! ## Literals -/

/-- The value of a number. One with a point is a double and any other a whole number of 64 bits. -/
def number (text : String) : Except ReadError Constant :=
  if '.' ∈ text.toList then
    match Double.ofSignedText? text.toList with
    | some d => .ok (.double d)
    | none => .error (.badNumber text)
  else
    match Decimal.readInt64 text.toList with
    | some i => .ok (.int i)
    | none => .error (.badNumber text)

def constant (v : Sql.Value) : Except ReadError Constant :=
  match v with
  | .number text _ => number text
  | .text s | .doubleQuoted s => .ok (.text s)
  | .bool b => .ok (.bool b)
  | .null => .ok .null
  | .other _ => .error (.unsupported (.literal (D.text (.value v))))

/-- The number with the other sign. -/
def negated? : Literal → Option Constant
  | .scalar _ (.int i) => some (.int (-i))
  | .scalar _ (.double d) => some (.double d.neg)
  | _ => none

/-- A literal: a value, or a number with minus signs before it. -/
def literal (e : Sql.Expr) : Except ReadError Literal :=
  match e with
  | .value v => (constant D v).map (.scalar (D.text (.value v)))
  | .minus inner =>
    match literal inner with
    | .error cause => .error cause
    | .ok l =>
      match negated? l with
      | some c => .ok (.scalar (D.text (.minus inner)) c)
      | none => .error (.unsupported (.minus (D.text (.minus inner))))
  | e => .error (.unsupported (.operand (D.text e)))

/-! ## Operands -/

/-- The column under which a select list has what a call calculates. -/
def computed (items : List SelectItem) (text : String) (c : Calculation) : Except ReadError Column :=
  match items.find? (·.calculation == some c) with
  | some item => .ok item.output
  | none => .error (.notComputed text)

def operand (items : List SelectItem) (e : Sql.Expr) : Except ReadError Operand :=
  match e with
  | .name parts => .ok (.column (columnOfName parts))
  | .nested inner => operand items inner
  | .call name args form => do
    let c ← calculation D name args form
    return .column (← computed items (D.text (.call name args form)) c)
  | e => (literal D e).map .literal

/-! ## Conditions -/

def compareOp (op : Sql.BinaryOp) : Except ReadError CompareOp :=
  match op with
  | .eq => .ok .eq
  | .notEq => .ok .notEq
  | .lt => .ok .lt
  | .ltEq => .ok .ltEq
  | .gt => .ok .gt
  | .gtEq => .ok .gtEq
  | op => .error (.unsupported (.comparison op.symbol))

/-- The predicate of an expression, in which the items of a select list can be called. -/
def predicate (items : List SelectItem) (e : Sql.Expr) : Except ReadError Predicate :=
  match e with
  | .nested inner => predicate items inner
  | .binary .and left right => do
    let l ← predicate items left
    let r ← predicate items right
    return .and [l, r]
  | .binary .or left right => do
    let l ← predicate items left
    let r ← predicate items right
    return .or [l, r]
  | .binary op left right => do
    let l ← operand D items left
    let o ← compareOp op
    let r ← operand D items right
    return .compare l o r
  | .inList e negated list => do
    let literals ← list.mapM (literal D)
    let content := "(" ++ ", ".intercalate (list.map D.text) ++ ")"
    let l ← operand D items e
    return .compare l (if negated then .notIn else .isIn) (.literal (.list content literals))
  | e => .error (.unsupported (.condition (D.text e)))

end JoinPlan.Reader

namespace JoinPlan

open Reader

/-- The predicate at the front of a text. What stands behind it is left out. -/
def Predicate.readIn (D : Sql.Dialect) (text : String) : Except ReadError Predicate :=
  match D.tokens text >>= D.expr with
  | .ok (e, _) => predicate D [] e
  | .error reason => .error (.malformedCondition text reason)

def JoinCondition.readIn (D : Sql.Dialect) (text : String) : Except ReadError JoinCondition :=
  (Predicate.readIn D text).map (⟨text, ·⟩)

end JoinPlan
