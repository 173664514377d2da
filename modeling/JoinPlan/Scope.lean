import JoinPlan.Column

/-!
# Resolving references

A scope is what one side of a join answers to. `Scope.resolve` looks a reference up in one scope and
`resolveEither` in two, of which the left one is asked first.
-/

namespace JoinPlan

structure Scope where
  table : String
  /-- The name the statement gives the table. -/
  asName : Option String
  /-- The name that a column goes by, under a qualifier that the scope answers to. -/
  lookup : Option String → String → Option String
  /-- Whether a reference with this qualifier can belong to the scope. -/
  accepts : String → Bool

namespace Scope

/-- The name a table answers to: its alias, or its own name when it has none. -/
def answer (table : String) (asName : Option String) : String :=
  asName.getD table

/-- A scope that answers to one name. -/
def named (table : String) (asName : Option String)
    (lookup : Option String → String → Option String) : Scope :=
  ⟨table, asName, lookup, fun qualifier => qualifier == answer table asName⟩

def resolve (s : Scope) (raw : String) : Option Column :=
  match splitQualifier raw with
  | (some qualifier, name) =>
    if s.accepts qualifier then (s.lookup (some qualifier) name).map Column.parse else none
  | (none, name) => (s.lookup none name).map Column.parse

end Scope

/-- A column of the right side, behind the alias of that side unless it has a qualifier. -/
def ofRightSide (asName : Option String) (c : Column) : Column :=
  if c.isQualified then c
  else
    match asName with
    | some qualifier => Column.qualified qualifier c.name
    | none => c

/-- The column that a reference means in a join of two sides. -/
def resolveEither (raw : String) (left right : Scope) : Option Column :=
  match left.resolve raw with
  | some c => some c
  | none => (right.resolve raw).map (ofRightSide right.asName)

end JoinPlan
