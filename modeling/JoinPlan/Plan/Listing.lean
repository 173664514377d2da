import JoinPlan.Plan.Stage
import JoinPlan.Predicate.Printer
import JoinPlan.Text.Quoted

/-!
# Listings of plans

A fragment as indented lines: one for the fragment, one for what is registered on it if anything is,
and those of its stages.
-/

namespace JoinPlan

/-- A line that is indented by so many steps. -/
def indented (depth : Nat) (line : String) : String :=
  String.join (List.replicate depth "  ") ++ line

/-- A part of a line, if its value is there. -/
def labelled (label : String) : Option String → String
  | some value => " " ++ label ++ "=" ++ value
  | none => ""

def JoinWindow.text (w : JoinWindow) : String :=
  "window=" ++ w.name ++ " type=" ++ w.kind.text ++ " left_keys=" ++ Text.quotedList w.leftKeys ++
    " right_keys=" ++ Text.quotedList w.rightKeys ++
    labelled "residual" (w.residual.map fun on => "(" ++ on.content ++ ")")

def Registered.text : Registered → String
  | .window w => "window:" ++ w.name
  | .filter f => "filter:" ++ f.label

def Header.lines (depth : Nat) (h : Header) : List String :=
  indented depth ("Pipeline " ++ h.space ++ "." ++ h.name ++ labelled "dependency" h.dependency ++
    labelled "source" h.arrival ++ (if h.isBreak then " break" else "")) ::
    (if h.registered.isEmpty then []
    else
      [indented (depth + 1)
        ("configurables=[" ++ ", ".intercalate (h.registered.map Registered.text) ++ "]")])

mutual
def Stage.lines (depth : Nat) : Stage → List String
  | .source _ table asName => [indented depth ("Source table=" ++ table ++ labelled "as" asName)]
  | .filter f => [indented depth ("Filter " ++ f.predicate.text)]
  | .lookup _ table _ kind on =>
    [indented depth
      ("DimensionJoin table=" ++ table ++ " type=" ++ kind.text ++ " on=" ++ on.content)]
  | .expand _ function args _ columns kind =>
    [indented depth ("LateralJoin function=" ++ function ++ "(" ++ ", ".intercalate args ++
      ") type=" ++ kind.text ++ " fields=" ++ Text.quotedList columns)]
  | .emit _ window => [indented depth ("WindowEmit window=" ++ window.name)]
  | .join _ window left leftStages right rightStages rightDependency =>
    indented depth ("Join " ++ window.text ++ " right_dependency=" ++ rightDependency) ::
      indented (depth + 1) "left:" :: left.lines (depth + 2) ++ linesOf (depth + 3) leftStages ++
      indented (depth + 1) "right:" :: right.lines (depth + 2) ++ linesOf (depth + 3) rightStages
  | .reference _ fragment => [indented depth ("RightJoinRef pipeline=" ++ fragment)]
  | .group _ keys aggregates functions =>
    indented depth ("GroupBy keys=" ++ Text.quotedList (keys.map Column.text)) ::
      aggregates.map (fun (a, name) => indented (depth + 1) (name ++ " := " ++ a.text)) ++
      functions.map fun f => indented (depth + 1) f.text
  | .enrich _ functions =>
    indented depth "Enrich" :: functions.map fun f => indented (depth + 1) f.text
  | .having _ _ p => [indented depth ("Having " ++ p.text)]

def linesOf (depth : Nat) : List Stage → List String
  | [] => []
  | s :: ss => s.lines depth ++ linesOf depth ss
end

def Fragment.lines (f : Fragment) : List String :=
  f.toHeader.lines 0 ++ linesOf 1 f.stages

/-- The listing of a fragment. Every line is ended. -/
def Fragment.listing (f : Fragment) : String :=
  String.join (f.lines.map (· ++ "\n"))

end JoinPlan
