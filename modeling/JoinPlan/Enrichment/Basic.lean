import JoinPlan.Dict
import JoinPlan.ErrorKind
import JoinPlan.Row

/-!
# Functions that write columns

A function writes one column of a row, in two passes: `apply` runs on every row as it arrives and
`finish` on every result when its window closes, with what is known of the window.
-/

namespace JoinPlan

inductive FunctionError where
  /-- There is no row to write to. -/
  | noTarget (function output : String)
  | unknownBoundary (name : String)
  | emptyPath
  | argumentCount (function : String) (found : Nat)
  | unknownFunction (name : String)
  | duplicateOutput (output label : String)
  /-- An error that a function of the user gives. -/
  | reported (kind : ErrorKind) (text : String)
deriving DecidableEq, Repr

namespace FunctionError

def kind : FunctionError → ErrorKind
  | .unknownFunction _ => .planning
  | .reported kind _ => kind
  | _ => .invalidArgument

def text : FunctionError → String
  | .noTarget function output =>
    function ++ " cannot write " ++ output ++ " without a target record"
  | .unknownBoundary name =>
    "window_boundary_time expects window_start or window_end, got '" ++ name ++ "'"
  | .emptyPath => "json_field requires a non-empty path"
  | .argumentCount function found =>
    function ++ "() takes exactly one argument, got " ++ toString found
  | .unknownFunction name => "unknown function: " ++ name
  | .duplicateOutput output label =>
    "output " ++ output ++ " is written by more than one function in " ++ label
  | .reported _ text => text

end FunctionError

/-- What is known of a window when it closes. -/
abbrev WindowInfo := Dict Json

structure FieldFunction where
  name : String
  /-- The column that the function writes. -/
  output : String
  apply : Json → Row → Except FunctionError Row
  /-- The pass over a result, of which there may be none. -/
  finish : WindowInfo → Option Row → Except FunctionError (Option Row)

end JoinPlan
