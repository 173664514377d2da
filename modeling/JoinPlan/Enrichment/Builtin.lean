import JoinPlan.Calculation
import JoinPlan.Enrichment.Basic
import JoinPlan.Decimal.Reader

/-!
# Built-in functions

`window_boundary_time` copies the start or the end of the window into the result. `json_field` copies
a part of the arriving row that a path leads to.
-/

namespace JoinPlan

/-- The row that a function has to have. -/
def requireTarget (function output : String) : Option Row → Except FunctionError Row
  | some row => .ok row
  | none => .error (.noTarget function output)

/-! ## Bounds of windows -/

structure WindowBoundary where
  field : String
  output : String
deriving DecidableEq, Repr

namespace WindowBoundary

def name : String := "window_boundary_time"

def make (field output : String) : Except FunctionError WindowBoundary :=
  if field = "window_start" ∨ field = "window_end" then .ok ⟨field, output⟩
  else .error (.unknownBoundary field)

/-- The bounds are known only when the window closes. -/
def toFunction (b : WindowBoundary) : FieldFunction where
  name := name
  output := b.output
  apply _ row := .ok row
  finish info target := do
    let row ← requireTarget name b.output target
    return some (row.insert b.output ((info.get? b.field).getD .null))

end WindowBoundary

/-! ## Parts of rows -/

structure JsonField where
  path : List String
  output : String
deriving DecidableEq, Repr

namespace JsonField

def name : String := "json_field"

/-- The parts of a text between slashes. -/
def splitAtSlashes : List Char → List (List Char)
  | [] => [[]]
  | c :: cs =>
    if c = '/' then [] :: splitAtSlashes cs
    else
      match splitAtSlashes cs with
      | part :: parts => (c :: part) :: parts
      | [] => [[c]]

/-- The steps of a path. Empty ones are left out. -/
def steps (path : String) : List String :=
  ((splitAtSlashes path.toList).filter (!·.isEmpty)).map String.ofList

def make (path output : String) : Except FunctionError JsonField :=
  match steps path with
  | [] => .error .emptyPath
  | path => .ok ⟨path, output⟩

/-- The index of an item of an array: digits, with a plus sign or none before them. -/
def index? (step : String) : Option Nat :=
  let digits :=
    match step.toList with
    | '+' :: cs => cs
    | cs => cs
  if digits.all Char.isDigit && !digits.isEmpty then some (Decimal.digitsToNat digits) else none

/-- The part of a value that one step leads to. -/
def step? (j : Json) (step : String) : Option Json :=
  match j with
  | .object members => members.lookup step
  | .array items => (index? step).bind (items[·]?)
  | _ => none

/-- The part of a value that a path leads to. -/
def extract (path : List String) (j : Json) : Option Json :=
  path.foldlM step? j

/-- The column is written as the row arrives. Later there only has to be a result. -/
def toFunction (f : JsonField) : FieldFunction where
  name := name
  output := f.output
  apply raw row := .ok (row.insert f.output ((extract f.path raw).getD .null))
  finish _ target := do
    let row ← requireTarget name f.output target
    return some row

end JsonField

/-! ## Calls -/

/-- The argument of a function that takes one. -/
def FunctionCall.onlyArgument (call : FunctionCall) : Except FunctionError String :=
  match call.args with
  | [arg] => .ok arg
  | args => .error (.argumentCount call.function args.length)

/-- The built-in function of a call, whose name may be written in any case. -/
def FunctionCall.builtin (call : FunctionCall) : Except FunctionError FieldFunction :=
  let name := call.function.toLower
  if name = WindowBoundary.name then do
    return (← WindowBoundary.make (← call.onlyArgument) call.output).toFunction
  else if name = JsonField.name then do
    return (← JsonField.make (← call.onlyArgument) call.output).toFunction
  else .error (.unknownFunction name)

end JoinPlan
