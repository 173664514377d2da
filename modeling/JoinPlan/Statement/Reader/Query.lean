import JoinPlan.Sql.Generic.Query
import JoinPlan.Statement.Reader.Condition
import JoinPlan.Text.Blank

/-!
# Reading statements

The statement of an SQL text: one query that joins two tables. What the query has beside its select
list, its join, WHERE, GROUP BY and HAVING is left out.
-/

namespace JoinPlan.Reader

variable (D : Sql.Dialect)

/-! ## Tables and joins -/

def tableRef (r : Sql.Relation) : Except ReadError TableRef :=
  match r with
  | .table name asName _ _ => .ok ⟨dotted name, asName.map (·.name.value)⟩
  | .other _ _ => .error (.unsupported .notTable)

def joinKind (side : Sql.JoinSide) : Except ReadError JoinKind :=
  match side with
  | .inner => .ok .inner
  | .leftOuter => .ok .left
  | .other name => .error (.unsupported (.joinSide name))

/-- The condition of a join. TRUE demands nothing and is no condition. -/
def joinCondition (c : Sql.JoinConstraint) : Except ReadError (Option JoinCondition) :=
  match c with
  | .on (.value (.bool true)) | .none => .ok none
  | .on e => do return some ⟨D.text e, ← predicate D [] e⟩
  | .columns _ | .natural => .error (.unsupported .joinConstraint)

/-- The join behind FROM, without a select list. -/
def joinQuery (content : String) (s : Sql.Select) : Except ReadError JoinQuery := do
  match s.sources with
  | [source] =>
    match source.joins with
    | [j] =>
      let left ← tableRef source.relation
      let right ← tableRef j.relation
      let kind ← joinKind j.side
      let on ← joinCondition D j.constraint
      return ⟨content, left, right, kind, on, []⟩
    | joins => throw (.joinCount joins.length content)
  | _ => throw (.unsupported .severalSources)

/-! ## Queries -/

def groupKeys (g : Sql.Grouping) : Except ReadError (List Column) :=
  match g with
  | .by es _ => es.mapM (column D)
  | .all _ => .error (.unsupported .groupByAll)

/-- The statement of a query. It is only a join where it has no filter, no groups and no aggregate. -/
def select (content : String) (s : Sql.Select) : Except ReadError Statement := do
  let join ← joinQuery D content s
  let items ← s.items.mapM (selectItem D)
  let join := { join with items }
  let keys ← groupKeys D s.grouping
  let before ← s.selection.mapM (predicate D [])
  let having ← s.having.mapM (predicate D items)
  let grouped : GroupedQuery := ⟨join, before, none, keys⟩
  match having with
  | some having => return .having (← (grouped.withHaving having).mapError .invalid)
  | none =>
    if before.isNone && keys.isEmpty && join.aggregates.isEmpty then return .join join
    else return .grouped grouped

def statement (content : String) (s : Sql.Statement) : Except ReadError Statement :=
  match s with
  | .other => .error (.unsupported .notSelect)
  | .query q =>
    match q.body with
    | .select s => select D content s
    | .other _ => .error (.unsupported .setOperation)

end JoinPlan.Reader

namespace JoinPlan

/-- The statement of an SQL text. -/
def Statement.readIn (D : Sql.Dialect) (sql : String) : Except ReadError Statement :=
  match D.statements sql with
  | .ok [s] => Reader.statement D (Text.trim sql) s
  | .ok _ => .error (.unsupported .severalStatements)
  | .error reason => .error (.malformed reason)

/-! ## Texts of the generic dialect -/

def Predicate.read (text : String) : Except ReadError Predicate :=
  readIn .generic text

def JoinCondition.read (text : String) : Except ReadError JoinCondition :=
  readIn .generic text

def Statement.read (sql : String) : Except ReadError Statement :=
  readIn .generic sql

end JoinPlan
