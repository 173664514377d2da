/-!
# Kinds of errors

What went wrong, as far as a caller has to tell it apart. Each kind has a heading for its messages.
-/

namespace JoinPlan

inductive ErrorKind where
  /-- A statement that is refused while it is put together. -/
  | invalidStatement
  /-- A name or a shape that fails while a statement is compiled. -/
  | planning
  /-- A predicate that has no answer for a row. -/
  | execution
  /-- A function that is called against its contract. -/
  | invalidArgument
  /-- Settings that no plan can be made with. -/
  | invalidConfig
  /-- SQL outside the part that can be planned. -/
  | unsupported
deriving DecidableEq, Repr

def ErrorKind.heading : ErrorKind → String
  | .invalidStatement => "invalid statement"
  | .planning => "planning error"
  | .execution => "execution error"
  | .invalidArgument => "invalid argument"
  | .invalidConfig => "invalid configuration"
  | .unsupported => "unsupported"

/-- A message under its heading. -/
def ErrorKind.message (kind : ErrorKind) (text : String) : String :=
  kind.heading ++ ": " ++ text

end JoinPlan
