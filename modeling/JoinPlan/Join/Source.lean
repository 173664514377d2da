import JoinPlan.Join.Condition
import JoinPlan.Scope

/-!
# Sources of rows

The tables that a statement names and the joins between them. A source answers references as a scope:
a table by its own columns, and a join by those of its left side and then of its right side.
-/

namespace JoinPlan

/-! ## Tables -/

/-- How a table takes part in a query. -/
inductive TableKind where
  /-- Rows that never end. -/
  | stream
  /-- A snapshot that rows are looked up in. -/
  | dimension
  /-- A function that gives rows for a row. -/
  | lateral (function : String) (args : List String)
deriving DecidableEq, Repr, Inhabited

structure TableEntry where
  kind : TableKind
  columns : List String
deriving DecidableEq, Repr, Inhabited

/-- The tables that statements can name. -/
abbrev Catalog := Dict TableEntry

/-- A table as a statement names it. -/
structure Table where
  name : String
  asName : Option String
  columns : List String
deriving DecidableEq, Repr, Inhabited

namespace Table

def scope (t : Table) : Scope :=
  .named t.name t.asName fun _ column => if column ∈ t.columns then some column else none

/-- The columns, behind the alias of the table if it has one. -/
def qualifiedNames (t : Table) : List String :=
  match t.asName with
  | some qualifier => t.columns.map (qualifier ++ "." ++ ·)
  | none => t.columns

end Table

/-! ## Sources -/

inductive Source where
  /-- A stream and the filters that run before its rows reach a join. -/
  | stream (t : Table) (filters : List Predicate)
  | dimension (t : Table)
  | lateral (t : Table) (function : String) (args : List String)
  | join (left right : Source) (kind : JoinKind) (on : Option JoinCondition)
deriving Inhabited

/-- A join at the top of a source. -/
structure Join where
  left : Source
  right : Source
  kind : JoinKind
  on : Option JoinCondition
deriving Inhabited

/-- How the rows of the right side reach those of the left one. -/
inductive JoinStrategy where
  | dimension | lateral | stream
deriving DecidableEq, Repr, Inhabited

def JoinStrategy.name : JoinStrategy → String
  | .dimension => "DimensionJoin"
  | .lateral => "LateralJoin"
  | .stream => "StreamJoin"

namespace Source

/-- The source for a table of the catalog, unless the catalog does not have it. An empty alias is
none. -/
def ofCatalog? (catalog : Catalog) (name : String) (asName : Option String) : Option Source := do
  let entry ← catalog.get? name
  let t : Table := ⟨name, asName.filter (· ≠ ""), entry.columns⟩
  match entry.kind with
  | .stream => return .stream t []
  | .dimension => return .dimension t
  | .lateral function args => return .lateral t function args

def kindName : Source → String
  | .stream .. => "select"
  | .dimension _ => "dimension"
  | .lateral .. => "lateral"
  | .join .. => "join"

/-- The way to join a source on the right. -/
def strategy : Source → JoinStrategy
  | .dimension _ => .dimension
  | .lateral .. => .lateral
  | .stream .. | .join .. => .stream

/-- The table that a source is named after. A join is named after its left side. -/
def tableName : Source → String
  | .stream t _ | .dimension t | .lateral t _ _ => t.name
  | .join left .. => left.tableName

def asName? : Source → Option String
  | .stream t _ | .dimension t | .lateral t _ _ => t.asName
  | .join .. => none

/-- The scope of a join of two scopes. It answers to what either side answers to. -/
def joinScope (left right : Scope) : Scope where
  table := left.table
  asName := none
  lookup qualifier column :=
    let raw := match qualifier with
      | some q => q ++ "." ++ column
      | none => column
    (resolveEither raw left right).map Column.text
  accepts qualifier := left.accepts qualifier || right.accepts qualifier

def scope : Source → Scope
  | .stream t _ | .dimension t | .lateral t _ _ => t.scope
  | .join left right _ _ => joinScope left.scope right.scope

/-- The text of the column that a reference means. -/
def columnText (s : Source) (raw : String) : Option String :=
  (s.scope.resolve raw).map Column.text

/-- The names of the right side of a join: behind its alias, unless they have a dot. -/
def namesOnRight (asName : Option String) (names : NameSet) : NameSet :=
  match asName with
  | some qualifier =>
    .ofList (names.keys.map fun n => if '.' ∈ n.toList then n else qualifier ++ "." ++ n)
  | none => names

/-- The names of all columns that a source gives. -/
def columnNames : Source → NameSet
  | .stream t _ => .ofList t.columns
  | .dimension t | .lateral t _ _ => .ofList t.qualifiedNames
  | .join left right _ _ => left.columnNames.union (namesOnRight right.asName? right.columnNames)

/-- The streams that a source reads. -/
def streams : Source → NameSet
  | .stream t _ => .ofList [t.name]
  | .dimension _ | .lateral .. => Dict.empty
  | .join left right _ _ =>
    match right.strategy with
    | .stream => left.streams.union right.streams
    | .dimension | .lateral => left.streams

/-- The source with one more filter, if it is one that takes filters. -/
def pushFilter (s : Source) (p : Predicate) : Option Source :=
  match s with
  | .stream t filters => some (.stream t (filters ++ [p]))
  | _ => none

/-- The name under which rows of a source arrive at a join of a table with itself. -/
def arrivalName (s : Source) : String :=
  match s.asName? with
  | some qualifier => qualifier ++ "." ++ s.tableName
  | none => s.tableName

end Source

/-! ## Joins -/

/-- A side of a join. -/
inductive Side where
  | left | right
deriving DecidableEq, Repr, Inhabited

namespace Join

def toSource (j : Join) : Source :=
  .join j.left j.right j.kind j.on

def strategy (j : Join) : JoinStrategy :=
  j.right.strategy

def isStreamJoin (j : Join) : Bool :=
  j.strategy == .stream

def side (j : Join) : Side → Source
  | .left => j.left
  | .right => j.right

def withSide (j : Join) (side : Side) (s : Source) : Join :=
  match side with
  | .left => { j with left := s }
  | .right => { j with right := s }

/-- The column that a reference means, of the left side if that side knows it. -/
def resolve (j : Join) (raw : String) : Option Column :=
  resolveEither raw j.left.scope j.right.scope

def columnText (j : Join) (raw : String) : Option String :=
  (j.resolve raw).map Column.text

/-- The names of all columns of those sides that have the given alias. -/
def columnNamesUnder (j : Join) (asName : String) : NameSet :=
  let left := if j.left.asName? = some asName then j.left.columnNames else Dict.empty
  let right :=
    if j.right.asName? = some asName then Source.namesOnRight asName j.right.columnNames
    else Dict.empty
  left.union right

/-- The names of the left side, if the alias is its own. -/
def leftNamesUnder (j : Join) (asName : String) : Option NameSet :=
  if j.left.asName? = some asName then some j.left.columnNames else none

/-- The join with one more filter on a side, if that side takes filters. -/
def pushFilter (j : Join) (side : Side) (p : Predicate) : Option Join :=
  ((j.side side).pushFilter p).map (j.withSide side)

end Join

end JoinPlan
