import JoinPlan.Json.Basic

/-!
# Rows

A row on its way through a plan: a JSON value under each of its keys. Columns of the main side stand
under their own names and those of a joined side behind its alias.
-/

namespace JoinPlan

abbrev Row := Dict Json

namespace Row

/-- The members of an object. Any other value makes an empty row. -/
def ofJson : Json → Row
  | .object members => Dict.ofList members
  | _ => Dict.empty

/-- The value under a key, or null. -/
def valueAt (row : Row) (key : String) : Json :=
  (row.get? key).getD .null

def toJson (row : Row) : Json :=
  .object row.entries

end Row

end JoinPlan
