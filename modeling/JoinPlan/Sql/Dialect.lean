import JoinPlan.Sql.Tree

/-!
# Dialects of SQL

A dialect of SQL is a parser of it: how a text is split into tokens, which trees are read from them,
and how parts of a tree are printed. Statements are read in any dialect.
-/

namespace JoinPlan.Sql

structure Dialect where
  Token : Type
  /-- The tokens of a text, without blanks and comments. -/
  tokens : String → Except String (List Token)
  /-- The expression at the front of a list of tokens, and the tokens behind it. -/
  expr : List Token → Except String (Expr × List Token)
  /-- The statements of a text. -/
  statements : String → Except String (List Statement)
  /-- An expression as it is printed. A literal is printed as the expression that it is. -/
  text : Expr → String
  identText : Ident → String

end JoinPlan.Sql
