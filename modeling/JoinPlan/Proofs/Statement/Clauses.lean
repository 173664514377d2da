import JoinPlan.Proofs.Outcome
import JoinPlan.Statement.Reader.Query

/-!
# Clauses that are not read

A statement is read from the select list, the join, WHERE, GROUP BY and HAVING of a query. All other
clauses, and what a call has beside its arguments, may be there or not: the statement is the same.
-/

namespace JoinPlan

/-! ## Queries without these clauses -/

namespace Sql

/-- A call is calculated from its name and its arguments, or the query in their place. -/
def CallForm.core (form : CallForm) : CallForm :=
  { CallForm.plain with query := form.query }

/-- A condition without the clauses of its calls. -/
def Expr.core : Expr → Expr
  | .nested e => .nested e.core
  | .binary op left right => .binary op left.core right.core
  | .inList e negated items => .inList e.core negated items
  | .call callee args form => .call callee args form.core
  | e => e

/-- An item without the clauses of its call. A call without an alias keeps them, as its column has
its text for a name. -/
def Item.core : Item → Item
  | .named (.call name args form) asName => .named (.call name args form.core) asName
  | item => item

def Relation.core : Relation → Relation
  | .table name asName _ _ => .table name (asName.map fun a => ⟨a.name, []⟩) none []
  | .other text asName => .other text asName

def Join.core (j : Join) : Join :=
  { j with relation := j.relation.core, more := [] }

def Source.core (s : Source) : Source :=
  ⟨s.relation.core, s.joins.map Join.core⟩

def Grouping.core : Grouping → Grouping
  | .all _ => .all []
  | .by es _ => .by es []

def Select.core (s : Select) : Select where
  distinct := none
  items := s.items.map Item.core
  sources := s.sources.map Source.core
  selection := s.selection
  grouping := s.grouping.core
  having := s.having.map Expr.core
  windows := none
  qualify := none
  windowsFirst := false
  more := []

def Body.core : Body → Body
  | .select s => .select s.core
  | .other text => .other text

def Query.core (q : Query) : Query where
  commonTables := none
  body := q.body.core
  orderBy := none
  limit := none
  offset := none
  fetch := none
  more := []

/-- Whether one table is joined to another by INNER or LEFT JOIN, on a condition or on none. -/
def Select.JoinsTables (s : Select) : Prop :=
  ∃ name asName args more name' asName' args' more' side constraint clauses,
    s.sources = [⟨.table name asName args more,
      [⟨side, .table name' asName' args' more', constraint, clauses⟩]⟩] ∧
      (side = .inner ∨ side = .leftOuter) ∧ ((∃ e, constraint = .on e) ∨ constraint = .none)

end Sql

/-! ## What the reader leaves aside -/

namespace Reader

variable (D : Sql.Dialect)

theorem calculation_core (name : List Sql.Ident) (args : List Sql.Argument) (form : Sql.CallForm) :
    calculation D name args form.core = calculation D name args form := rfl

theorem selectItem_core (item : Sql.Item) : selectItem D item.core = selectItem D item := by
  unfold Sql.Item.core
  split <;> rfl

theorem tableRef_core (r : Sql.Relation) : tableRef r.core = tableRef r := by
  cases r with
  | table name asName => cases asName <;> rfl
  | other => rfl

theorem groupKeys_core (g : Sql.Grouping) : groupKeys D g.core = groupKeys D g := by
  cases g <;> rfl

theorem joinQuery_core (content : String) (s : Sql.Select) :
    joinQuery D content s.core = joinQuery D content s := by
  unfold joinQuery Sql.Select.core
  rcases s.sources with _ | ⟨⟨relation, _ | ⟨j, _ | ⟨_, _⟩⟩⟩, _ | ⟨_, _⟩⟩
  all_goals simp [Sql.Source.core, Sql.Join.core, tableRef_core]

variable (items : List SelectItem)

/-- The text of a call is only part of the error where the select list does not have the call. -/
theorem operand_core (e : Sql.Expr) :
    (operand D items e.core).toOption = (operand D items e).toOption := by
  induction e using Sql.Expr.core.induct with
  | case1 e ih => exact ih
  | case2 op left right ihleft ihright => rfl
  | case3 e negated list ih => rfl
  | case4 name args form =>
    have hcomputed : ∀ text text' c,
        (computed items text c).toOption = (computed items text' c).toOption := by
      intro text text' c
      unfold computed
      cases items.find? (·.calculation == some c) <;> rfl
    simp only [Sql.Expr.core, operand, calculation_core, Outcome.toOption_bind]
    congr 1
    funext c
    rw [hcomputed]
  | case5 e hnested hbinary hlist hcall => rw [Sql.Expr.core.eq_5 e hnested hbinary hlist hcall]

theorem predicate_core (e : Sql.Expr) :
    (predicate D items e.core).toOption = (predicate D items e).toOption := by
  induction e using Sql.Expr.core.induct with
  | case1 e ih => exact ih
  | case2 op left right ihleft ihright =>
    cases op
    all_goals
      simp [Sql.Expr.core, predicate, Outcome.toOption_bind, Outcome.toOption_map, ihleft, ihright,
        operand_core]
  | case3 e negated list ih =>
    simp [Sql.Expr.core, predicate, Outcome.toOption_bind, Outcome.toOption_map, operand_core]
  | case4 name args form => rfl
  | case5 e hnested hbinary hlist hcall => rw [Sql.Expr.core.eq_5 e hnested hbinary hlist hcall]

/-- A select without the clauses gives the same statement, or none where this gives none. -/
theorem select_core (content : String) (s : Sql.Select) :
    (select D content s.core).toOption = (select D content s).toOption := by
  have hitems : (s.items.map Sql.Item.core).mapM (selectItem D) = s.items.mapM (selectItem D) := by
    rw [List.mapM_map]
    congr 1
    funext item
    exact selectItem_core D item
  have hhaving : ∀ items, ((s.having.map Sql.Expr.core).mapM (predicate D items)).toOption =
      (s.having.mapM (predicate D items)).toOption := by
    intro items
    cases s.having with
    | none => rfl
    | some e => simp [Option.mapM_some, Outcome.toOption_map, predicate_core]
  simp only [select, joinQuery_core]
  simp only [Sql.Select.core, hitems, groupKeys_core, Outcome.toOption_bind, hhaving]

theorem statement_core (content : String) (q : Sql.Query) :
    (statement D content (.query q.core)).toOption = (statement D content (.query q)).toOption := by
  obtain ⟨tables, body, orderBy, limit, offset, fetch, more⟩ := q
  cases body with
  | select s => exact select_core D content s
  | other => rfl

/-! ## Accepted queries -/

variable {D}

theorem tableRef_eq_ok {r : Sql.Relation} {t : TableRef} (h : tableRef r = .ok t) :
    ∃ name asName args more, r = .table name asName args more := by
  cases r with
  | table name asName args more => exact ⟨name, asName, args, more, rfl⟩
  | other => cases h

theorem joinKind_eq_ok {side : Sql.JoinSide} {kind : JoinKind} (h : joinKind side = .ok kind) :
    side = .inner ∨ side = .leftOuter := by
  cases side with
  | inner => exact Or.inl rfl
  | leftOuter => exact Or.inr rfl
  | _ => cases h

theorem joinCondition_eq_ok {c : Sql.JoinConstraint} {on : Option JoinCondition}
    (h : joinCondition D c = .ok on) : (∃ e, c = .on e) ∨ c = .none := by
  cases c with
  | on e => exact Or.inl ⟨e, rfl⟩
  | none => exact Or.inr rfl
  | columns | natural => cases h

theorem joinsTables_of_joinQuery {content : String} {s : Sql.Select} {q : JoinQuery}
    (h : joinQuery D content s = .ok q) : s.JoinsTables := by
  unfold joinQuery at h
  split at h
  · rename_i source hsources
    split at h
    · rename_i j hjoins
      simp only [Outcome.bind_eq_ok] at h
      obtain ⟨left, hleft, right, hright, kind, hkind, on, hon, -⟩ := h
      obtain ⟨name, asName, args, more, hrelation⟩ := tableRef_eq_ok hleft
      obtain ⟨name', asName', args', more', hjoined⟩ := tableRef_eq_ok hright
      obtain ⟨relation, joins⟩ := source
      obtain ⟨side, joined, constraint, clauses⟩ := j
      subst hjoins hrelation hjoined
      exact ⟨_, _, _, _, _, _, _, _, _, _, _, hsources, joinKind_eq_ok hkind,
        joinCondition_eq_ok hon⟩
    · cases h
  · cases h

theorem joinsTables_of_statement {content : String} {s : Sql.Statement} {st : Statement}
    (h : statement D content s = .ok st) :
    ∃ q body, s = .query q ∧ q.body = .select body ∧ body.JoinsTables := by
  cases s with
  | other => cases h
  | query q =>
    obtain ⟨tables, body, orderBy, limit, offset, fetch, more⟩ := q
    cases body with
    | other => cases h
    | select s =>
      obtain ⟨join, hjoin, -⟩ := Outcome.bind_eq_ok.mp h
      exact ⟨_, s, rfl, rfl, joinsTables_of_joinQuery hjoin⟩

end Reader

namespace Statement

variable {D : Sql.Dialect}

/-- A text that is accepted is one query that joins two tables. Every query that is like it but for
the clauses that are not read gives the same statement. -/
theorem read_eq_ok_of_core {sql : String} {st : Statement} (h : readIn D sql = .ok st) :
    ∃ q s, D.statements sql = .ok [.query q] ∧ q.body = .select s ∧ s.JoinsTables ∧
      ∀ q' : Sql.Query, q'.core = q.core →
        Reader.statement D (Text.trim sql) (.query q') = .ok st := by
  unfold readIn at h
  split at h
  · rename_i s hparse
    obtain ⟨q, body, rfl, hbody, hjoins⟩ := Reader.joinsTables_of_statement h
    refine ⟨q, body, hparse, hbody, hjoins, fun q' hcore => ?_⟩
    rw [← Outcome.toOption_eq_some, ← Reader.statement_core, hcore, Reader.statement_core]
    exact Outcome.toOption_eq_some.mpr h
  · cases h
  · cases h

def paymentCounts : String :=
  "SELECT COUNT(p.id) AS n FROM orders JOIN payments AS p ON orders.id = p.order_id " ++
    "GROUP BY orders.id"

/-- A limit changes nothing. -/
theorem read_eq_ok_of_core_paymentCounts :
    ∃ q s st, Sql.Dialect.generic.statements paymentCounts = .ok [.query q] ∧
      q.body = .select s ∧ s.JoinsTables ∧ read paymentCounts = .ok st ∧
      Reader.statement .generic (Text.trim paymentCounts)
        (.query { q with limit := some "5" }) = .ok st := by
  obtain ⟨st, hst, -⟩ := Outcome.toOption_map_eq_some.mp
    (show (read paymentCounts).toOption.map (fun _ => ()) = some () by decide +kernel)
  obtain ⟨q, s, hparse, hbody, hjoins, hcore⟩ := read_eq_ok_of_core hst
  exact ⟨q, s, st, hparse, hbody, hjoins, hst, hcore _ rfl⟩

/-- The query `paymentCounts` with clauses that are not read. -/
def clausedCounts : String :=
  "SELECT DISTINCT COUNT(DISTINCT p.id) AS n FROM orders JOIN payments AS p (id) " ++
    "ON orders.id = p.order_id GROUP BY orders.id WITH ROLLUP QUALIFY n > 1 ORDER BY n LIMIT 5"

/-- Whether a statement is a query that is written like the first text, without the clauses like the
second one, and can be read. -/
def isReadAs (sql core : String) (s : Sql.Statement) : Bool :=
  match s with
  | .query q =>
    Sql.Generic.queryText q == sql && Sql.Generic.queryText q.core == core &&
      (Reader.statement .generic (Text.trim sql) s).toOption.isSome
  | .other => false

/-- A text with clauses that are not read is accepted. What is read of it is a text without them. -/
theorem read_clausedCounts :
    ∃ q st, Sql.Dialect.generic.statements clausedCounts = .ok [.query q] ∧
      Sql.Generic.queryText q = clausedCounts ∧ Sql.Generic.queryText q.core = paymentCounts ∧
      read clausedCounts = .ok st := by
  obtain ⟨statements, hparse, hread⟩ := Outcome.toOption_map_eq_some.mp
    (show (Sql.Dialect.generic.statements clausedCounts).toOption.map
      (·.map (isReadAs clausedCounts paymentCounts)) = some [true] by decide +kernel)
  obtain ⟨q | _, rfl, hq⟩ := List.map_eq_singleton_iff.mp hread
  · simp only [isReadAs, Bool.and_eq_true, beq_iff_eq] at hq
    obtain ⟨⟨htext, hcore⟩, hsome⟩ := hq
    obtain ⟨st, hst⟩ := Option.isSome_iff_exists.mp hsome
    refine ⟨q, st, hparse, htext, hcore, ?_⟩
    rw [read, readIn, hparse]
    exact Outcome.toOption_eq_some.mp hst
  · cases hq

end Statement

end JoinPlan
