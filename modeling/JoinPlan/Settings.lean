import JoinPlan.ErrorKind
import JoinPlan.Json.Basic
import JoinPlan.Text.Blank

/-!
# Settings of a compilation

The settings as a JSON object or, in the order of the fields, as a JSON array. What is left out has
its default.
-/

namespace JoinPlan

structure Settings where
  /-- The namespace of every fragment and window. -/
  space : String
  /-- The name of the root fragment, from which the other names derive. -/
  root : String
  /-- Whether the parts of a WHERE that read one side run before the join. -/
  pushDown : Bool
deriving DecidableEq, Repr

inductive SettingsError where
  | emptyNamespace
  | emptyRoot
deriving DecidableEq, Repr

def SettingsError.text : SettingsError → String
  | .emptyNamespace => "namespace must not be empty"
  | .emptyRoot => "root_pipeline_name must not be empty"

namespace Settings

def default : Settings := ⟨"default", "root", true⟩

instance : Inhabited Settings := ⟨default⟩

/-- Settings with a name of blanks only are refused, as fragments would have no name. -/
def validate (s : Settings) : Except SettingsError Unit :=
  if Text.trim s.space = "" then .error .emptyNamespace
  else if Text.trim s.root = "" then .error .emptyRoot
  else .ok ()

def readText (fallback : String) : Option Json → Option String
  | none => some fallback
  | some (.string s) => some s
  | some _ => none

def readFlag (fallback : Bool) : Option Json → Option Bool
  | none => some fallback
  | some (.bool b) => some b
  | some _ => none

def ofParts (space root pushDown : Option Json) : Option Settings := do
  return ⟨← readText default.space space, ← readText default.root root,
    ← readFlag default.pushDown pushDown⟩

/-- Settings from JSON, unless a field has a value of another type. Other members of an object are
left aside. -/
def ofJson? : Json → Option Settings
  | .object members =>
    ofParts (members.lookup "namespace") (members.lookup "root_pipeline_name")
      (members.lookup "push_down_pre_join_filters")
  | .array items => if items.length ≤ 3 then ofParts items[0]? items[1]? items[2]? else none
  | _ => none

end Settings

end JoinPlan
