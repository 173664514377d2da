import JoinPlan.Decimal.Double
import JoinPlan.Dict

/-!
# JSON values

Integers of 64 bits, signed or unsigned, are kept apart from doubles. The members of an object are
in ascending order of their names.
-/

namespace JoinPlan

inductive Json where
  | null
  | bool (b : Bool)
  | int (i : Int)
  | double (d : Double)
  | string (s : String)
  | array (items : List Json)
  | object (members : List (String × Json))
deriving Inhabited

namespace Json

def ofMembers (members : List (String × Json)) : Json :=
  .object (Dict.ofList members).entries

def strings (ss : List String) : Json :=
  .array (ss.map .string)

/-- The double of a JSON number. JSON has no text for infinity, for which null stands. -/
def ofDouble (d : Double) : Json :=
  if d.isFinite then .double d else .null

def isNull : Json → Bool
  | .null => true
  | _ => false

/-- The member of an object. -/
def member? (j : Json) (name : String) : Option Json :=
  match j with
  | .object members => members.lookup name
  | _ => none

end Json

end JoinPlan
