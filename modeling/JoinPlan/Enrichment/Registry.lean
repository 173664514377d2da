import JoinPlan.Enrichment.Builtin

/-!
# Functions of the user

A registry has functions under names in which the case of ASCII letters does not count. Its functions
come before the built-in ones.
-/

namespace JoinPlan

/-- What makes the function of a call. -/
abbrev FunctionFactory := FunctionCall → Except FunctionError FieldFunction

structure Registry where
  factories : Dict FunctionFactory
deriving Inhabited

namespace Registry

def empty : Registry := ⟨Dict.empty⟩

def get? (r : Registry) (name : String) : Option FunctionFactory :=
  r.factories.get? name.toLower

/-- The registry with a function, and whether there was one of that name. -/
def register (r : Registry) (name : String) (f : FunctionFactory) : Bool × Registry :=
  ((r.get? name).isSome, ⟨r.factories.insert name.toLower f⟩)

/-- The registry without a function, and whether there was one of that name. -/
def deregister (r : Registry) (name : String) : Bool × Registry :=
  ((r.get? name).isSome, ⟨r.factories.erase name.toLower⟩)

/-- The function of a call. -/
def resolve (r : Registry) (call : FunctionCall) : Except FunctionError FieldFunction :=
  match r.get? call.function with
  | some factory => factory call
  | none => call.builtin

end Registry

end JoinPlan
