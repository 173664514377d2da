import JoinPlan.Sql.Dialect
import JoinPlan.Statement.ReadError
import JoinPlan.Text.LowerCase

/-!
# Reading columns and calls

A call is an aggregate of a column, an access to a bound of the window, or a call of a function by its
name in lower case.
-/

namespace JoinPlan.Reader

variable (D : Sql.Dialect)

/-- A name with its qualifiers, as plain text. -/
def dotted (parts : List Sql.Ident) : String :=
  ".".intercalate (parts.map (·.value))

/-- The column of a name. Only a name of several parts has a qualifier. -/
def columnOfName : List Sql.Ident → Column
  | [i] => .bare i.value
  | parts => .parse (dotted parts)

def column (e : Sql.Expr) : Except ReadError Column :=
  match e with
  | .name parts => .ok (columnOfName parts)
  | e => .error (.unsupported (.notColumn (D.text e)))

/-- The text of an argument. Names and texts stand without their quotes. -/
def argument (a : Sql.Argument) : Except ReadError String :=
  match a with
  | .expr (.name parts) => .ok (dotted parts)
  | .expr (.value (.text s)) => .ok s
  | .expr e => .ok (D.text e)
  | .star | .other _ => .error (.unsupported .argumentForm)

/-- The column of an aggregate with that name in messages. -/
def aggregated (name : String) (args : List Sql.Argument) : Except ReadError Column :=
  match args with
  | [.expr e] => column D e
  | [.star] => .error (.unsupported (.aggregateOfAll name))
  | _ => .error (.unsupported (.aggregateArguments name))

/-- The function that gives the bounds of a window. -/
def windowBoundary : String := "window_boundary_time"

/-- What a call calculates. -/
def calculation (name : List Sql.Ident) (args : List Sql.Argument) (form : Sql.CallForm) :
    Except ReadError Calculation := do
  if form.query.isSome then throw (.unsupported .queryArguments)
  let name := Text.lower (dotted name)
  match AggregateKind.ofText? name with
  | some kind => return .aggregate ⟨kind, ← aggregated D kind.heading args⟩
  | none =>
    if name = "window_start" ∨ name = "window_end" then return .function windowBoundary [name]
    else return .function name (← args.mapM (argument D))

/-- An item of a select list. A call without an alias writes a column that is named by its text. -/
def selectItem (item : Sql.Item) : Except ReadError SelectItem :=
  match item with
  | .plain (.name parts) => .ok ⟨columnOfName parts, none⟩
  | .plain (.call name args form) => do
    return ⟨.bare (D.text (.call name args form)), ← calculation D name args form⟩
  | .plain e => .error (.unsupported (.unnamedItem (D.text e)))
  | .named (.call name args form) asName => do
    return ⟨.bare asName.value, ← calculation D name args form⟩
  | .named e asName =>
    .error (.unsupported (.namedColumn (D.text e ++ " AS " ++ D.identText asName)))
  | .star | .tableStar _ => .error (.unsupported .allColumns)

end JoinPlan.Reader
