/-!
# SQL queries as trees

What a parser makes of an SQL text. Expressions and queries have the parts that statements are made
of. Every other expression, and every clause that a statement has no place for, is kept as its text.
-/

namespace JoinPlan.Sql

/-- A name and the quote around it, if it has one. -/
structure Ident where
  value : String
  quote : Option Char
deriving DecidableEq, Repr, Inhabited

/-- A part of a query that is kept as its text. -/
abbrev Clause := String

/-! ## Expressions -/

/-- A literal as it is written. -/
inductive Value where
  | number (text : String) (long : Bool)
  | text (s : String)
  | doubleQuoted (s : String)
  | bool (b : Bool)
  | null
  | other (text : String)
deriving DecidableEq, Repr, Inhabited

inductive BinaryOp where
  | or | and
  | eq | notEq | lt | ltEq | gt | gtEq
  | other (symbol : String)
deriving DecidableEq, Repr, Inhabited

def BinaryOp.symbol : BinaryOp → String
  | .or => "OR"
  | .and => "AND"
  | .eq => "="
  | .notEq => "<>"
  | .lt => "<"
  | .ltEq => "<="
  | .gt => ">"
  | .gtEq => ">="
  | .other symbol => symbol

/-- What a call has beside its name and its arguments. -/
structure CallForm where
  /-- Whether the arguments stand in parentheses. `CURRENT_DATE` has none. -/
  parens : Bool
  /-- A query instead of the arguments. -/
  query : Option Clause
  /-- ALL or DISTINCT before the arguments. -/
  quantifier : Option Clause
  /-- What follows the arguments within the parentheses, such as ORDER BY. -/
  tail : List Clause
  filter : Option Clause
  /-- What follows OVER. -/
  window : Option Clause
  /-- Other clauses, such as WITHIN GROUP. -/
  more : List Clause
deriving DecidableEq, Repr, Inhabited

/-- A call with nothing but arguments in parentheses. -/
def CallForm.plain : CallForm :=
  ⟨true, none, none, [], none, none, []⟩

mutual
inductive Expr where
  /-- A column or a table, with its qualifiers before it. -/
  | name (parts : List Ident)
  | value (v : Value)
  | minus (e : Expr)
  | binary (op : BinaryOp) (left right : Expr)
  | nested (e : Expr)
  | inList (e : Expr) (negated : Bool) (items : List Expr)
  | call (name : List Ident) (args : List Argument) (form : CallForm)
  | other (text : String)

inductive Argument where
  | expr (e : Expr)
  /-- All columns. -/
  | star
  /-- An argument with a name, or all columns of a table. -/
  | other (text : String)
end

instance : Inhabited Expr := ⟨.other ""⟩

/-! ## Queries -/

structure TableAlias where
  name : Ident
  columns : List Ident

inductive Relation where
  | table (name : List Ident) (asName : Option TableAlias) (args : Option Clause)
      (more : List Clause)
  /-- A query or a join, in parentheses. -/
  | other (text : String) (asName : Option TableAlias)

inductive JoinSide where
  | inner | leftOuter
  /-- Another kind of join, by its name in messages. -/
  | other (name : String)
deriving DecidableEq, Repr

inductive JoinConstraint where
  | on (e : Expr)
  | columns (names : List Ident)
  | natural
  | none

structure Join where
  side : JoinSide
  relation : Relation
  constraint : JoinConstraint
  more : List Clause

/-- A table and what is joined to it. -/
structure Source where
  relation : Relation
  joins : List Join

inductive Item where
  | plain (e : Expr)
  | named (e : Expr) (asName : Ident)
  | star
  | tableStar (parts : List Ident)

inductive Grouping where
  | all (modifiers : List Clause)
  | by (es : List Expr) (modifiers : List Clause)

structure Select where
  /-- DISTINCT before the items, with the keys of DISTINCT ON. -/
  distinct : Option Clause
  items : List Item
  sources : List Source
  selection : Option Expr
  grouping : Grouping
  having : Option Expr
  /-- The windows behind WINDOW. -/
  windows : Option Clause
  qualify : Option Clause
  /-- Whether WINDOW stands before QUALIFY. -/
  windowsFirst : Bool
  /-- Other clauses, such as TOP and INTO. -/
  more : List Clause

inductive Body where
  | select (s : Select)
  /-- A set operation, a list of values or a query in parentheses. -/
  | other (text : String)

structure Query where
  /-- The common tables before the body. -/
  commonTables : Option Clause
  body : Body
  orderBy : Option Clause
  limit : Option Clause
  offset : Option Clause
  /-- What follows FETCH. -/
  fetch : Option Clause
  /-- Other clauses, such as FOR UPDATE. -/
  more : List Clause

inductive Statement where
  | query (q : Query)
  /-- A statement that is no query. -/
  | other

end JoinPlan.Sql
