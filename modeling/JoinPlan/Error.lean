import JoinPlan.Enrichment.Basic
import JoinPlan.Join.Build
import JoinPlan.Predicate.Evaluate
import JoinPlan.Settings
import JoinPlan.Statement.ReadError

/-!
# Errors
-/

namespace JoinPlan

/-- Whatever can go wrong between an SQL text and the rows of its plan. -/
inductive PlanError where
  | settings (e : SettingsError)
  | read (e : ReadError)
  | statement (e : StatementError)
  | build (e : BuildError)
  | eval (e : EvalError)
  | function (e : FunctionError)

namespace PlanError

def kind : PlanError → ErrorKind
  | .settings _ => .invalidConfig
  | .read e => e.kind
  | .statement _ => .invalidStatement
  | .build _ => .planning
  | .eval _ => .execution
  | .function e => e.kind

def text : PlanError → String
  | .settings e => e.text
  | .read e => e.text
  | .statement e => e.text
  | .build e => e.text
  | .eval e => e.text
  | .function e => e.text

def message (e : PlanError) : String :=
  e.kind.message e.text

end PlanError

end JoinPlan
