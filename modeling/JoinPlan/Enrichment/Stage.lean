import JoinPlan.Enrichment.Registry

/-!
# The functions of a stage

The functions of one stage run in the order of their calls. A pass that fails keeps what the
functions before the failing one have written.
-/

namespace JoinPlan

structure Enrichment where
  functions : List FieldFunction

/-- What a pass leaves: the row, and the error that ended the pass if one did. -/
structure Pass (α : Type) where
  row : α
  failure : Option FunctionError

namespace Enrichment

def empty : Enrichment := ⟨[]⟩

/-- The functions of calls whose outputs are new to the given ones. -/
def resolveAll (r : Registry) (label : String) :
    List String → List FunctionCall → Except FunctionError (List FieldFunction)
  | _, [] => .ok []
  | written, call :: calls =>
    if call.output ∈ written then .error (.duplicateOutput call.output label)
    else do
      let f ← r.resolve call
      return f :: (← resolveAll r label (call.output :: written) calls)

/-- The functions of a stage. No two of them may write one column. -/
def ofCalls (r : Registry) (label : String) (calls : List FunctionCall) :
    Except FunctionError Enrichment :=
  (resolveAll r label [] calls).map .mk

def outputs (e : Enrichment) : List String :=
  e.functions.map (·.output)

/-- Runs steps on a row until one fails. -/
def runAll {α : Type} : List (α → Except FunctionError α) → α → Pass α
  | [], row => ⟨row, none⟩
  | step :: steps, row =>
    match step row with
    | .ok row => runAll steps row
    | .error cause => ⟨row, some cause⟩

/-- The pass over a row that arrives. -/
def applyAll (e : Enrichment) (raw : Json) (row : Row) : Pass Row :=
  runAll (e.functions.map (·.apply raw)) row

/-- The pass over a result. -/
def finishAll (e : Enrichment) (info : WindowInfo) (row : Option Row) : Pass (Option Row) :=
  runAll (e.functions.map (·.finish info)) row

end Enrichment

end JoinPlan
