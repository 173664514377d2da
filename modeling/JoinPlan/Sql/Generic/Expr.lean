import JoinPlan.Sql.Generic.Parser

/-!
# The grammar of expressions

An expression is an operand and the operators behind it. Of two operators the one that binds more
tightly takes the operand between them, and of two that bind alike the left one. `Level.subexpr` reads
an expression whose parts are read on the next level.
-/

namespace JoinPlan.Sql.Generic

open JoinPlan.Sql.Generic.Parser

/-! ## Operators -/

/-- The operator that a sign is, and how tightly it binds. -/
def binaryOp? : Symbol → Option (BinaryOp × Nat)
  | .eq | .doubleEq => some (.eq, 20)
  | .notEq => some (.notEq, 20)
  | .lt => some (.lt, 20)
  | .ltEq => some (.ltEq, 20)
  | .gt => some (.gt, 20)
  | .gtEq => some (.gtEq, 20)
  | .spaceship => some (.other "<=>", 20)
  | .pipe => some (.other "|", 21)
  | .caret => some (.other "^", 22)
  | .shiftLeft => some (.other "<<", 22)
  | .shiftRight => some (.other ">>", 22)
  | .ampersand => some (.other "&", 23)
  | .plus => some (.other "+", 30)
  | .minus => some (.other "-", 30)
  | .star => some (.other "*", 40)
  | .slash => some (.other "/", 40)
  | .intSlash => some (.other "//", 40)
  | .percent => some (.other "%", 40)
  | .concat => some (.other "||", 40)
  | _ => none

/-- What can stand behind an operand. -/
inductive Operator where
  | binary (op : BinaryOp) (strength : Nat)
  | is
  | inside (negated : Bool)
  | between (negated : Bool)
  | like (negated : Bool)
deriving DecidableEq, Repr

namespace Operator

/-- How tightly an operator binds. -/
def strength : Operator → Nat
  | .binary _ strength => strength
  | .is => 17
  | .like _ => 19
  | .inside _ | .between _ => 20

/-- The operator that a token is, with or without NOT before it. -/
def ofWord (negated : Bool) (t : Token) : Option Operator :=
  if t.isKeyword "IN" then some (.inside negated)
  else if t.isKeyword "BETWEEN" then some (.between negated)
  else if t.isKeyword "LIKE" then some (.like negated)
  else none

/-- The operator at the front of a list of tokens, and what follows it. -/
def read? : List Token → Option (Operator × List Token)
  | [] => none
  | .symbol s :: rest => (binaryOp? s).map fun (op, strength) => (.binary op strength, rest)
  | t :: rest =>
    if t.isKeyword "OR" then some (.binary .or 5, rest)
    else if t.isKeyword "AND" then some (.binary .and 10, rest)
    else if t.isKeyword "IS" then some (.is, rest)
    else if t.isKeyword "NOT" then
      match rest with
      | u :: rest => (ofWord true u).map (·, rest)
      | [] => none
    else (ofWord false t).map (·, rest)

end Operator

/-- How tightly unary signs bind. -/
def signStrength : Nat := 40

/-- How tightly NOT binds before an operand. -/
def notStrength : Nat := 15

namespace Level

variable (inner : Level)

/-! ## Calls -/

/-- The parts of a name that ends in `.*`, and what follows it. -/
def tableStar? : List Token → Option (List Ident × List Token)
  | t :: .symbol .period :: .symbol .star :: rest => (identOf? t).map fun i => ([i], rest)
  | t :: .symbol .period :: rest => do
    let i ← identOf? t
    let (parts, rest) ← tableStar? rest
    return (i :: parts, rest)
  | _ => none

/-- An expression, or a star for all columns, perhaps of one table. -/
def exprOrStar : Parser Item := fun ts =>
  match ts with
  | .symbol .star :: rest => .ok (.star, rest)
  | ts =>
    match tableStar? ts with
    | some (parts, rest) => .ok (.tableStar parts, rest)
    | none => (.plain <$> inner.expr 0) ts

def argument : Parser Argument := fun ts =>
  match ts with
  | t :: .symbol .arrow :: rest => named "=>" t rest
  | t :: .symbol .assign :: rest => named ":=" t rest
  | ts => (argumentOf <$> exprOrStar inner) ts
where
  named (sign : String) (t : Token) : Parser Argument := do
    match identOf? t with
    | some name =>
      return .other (identText name ++ " " ++ sign ++ " " ++ itemText (← exprOrStar inner))
    | none => unexpected
  argumentOf : Item → Argument
    | .plain e => .expr e
    | .star => .star
    | item => .other (itemText item)

/-- A key behind ORDER BY, and its directions. -/
def orderKey : Parser String := do
  let key ← inner.expr 0
  let direction ← acceptOneOf ["ASC", "DESC"]
  let nulls ←
    if ← acceptWords ["NULLS", "FIRST"] then pure ["NULLS FIRST"]
    else if ← acceptWords ["NULLS", "LAST"] then pure ["NULLS LAST"]
    else pure []
  return " ".intercalate (exprText key :: direction.toList ++ nulls)

/-- The keys behind ORDER BY, if it stands there. -/
def orderKeys : Parser (Option Clause) := do
  if ← acceptWords ["ORDER", "BY"] then
    return some (commaList (← commaSeparated (orderKey inner)))
  else return none

/-- ORDER BY and its keys, as a part of something else. -/
def orderPart : Parser (List Clause) := do
  return ((← orderKeys inner).map ("ORDER BY " ++ ·)).toList

/-- ALL or DISTINCT, but not both. -/
def quantifier : Parser (Option Clause) := do
  let all ← acceptWord "ALL"
  let distinct ← acceptWord "DISTINCT"
  if all && distinct then unexpected
  else return if all then some "ALL" else if distinct then some "DISTINCT" else none

/-- The arguments of a call up to the closing parenthesis. -/
def arguments : Parser (List Argument × CallForm) := do
  if ← accept .rightParen then return ([], .plain)
  let quantifier ← quantifier
  let args ← commaSeparated (argument inner)
  let tail ← orderPart inner
  expect .rightParen
  return (args, { CallForm.plain with quantifier, tail })

/-- What follows OVER: the name of a window, or its parts in parentheses. -/
def window : Parser Clause := do
  if ← accept .leftParen then
    let partition ←
      if ← acceptWords ["PARTITION", "BY"] then
        pure ["PARTITION BY " ++ commaList (exprTexts (← commaSeparated (inner.expr 0)))]
      else pure []
    let order ← orderPart inner
    expect .rightParen
    return "(" ++ " ".intercalate (partition ++ order) ++ ")"
  else return identText (← ident)

/-- A call behind its opening parenthesis. -/
def call (name : List Ident) : Parser Expr := do
  let (args, form) ← arguments inner
  let window ← if ← acceptWord "OVER" then some <$> window inner else pure none
  return .call name args { form with window }

/-! ## Operands -/

/-- Functions that stand without parentheses and without arguments. -/
def bareFunctions : List String :=
  ["CURRENT_CATALOG", "CURRENT_USER", "SESSION_USER", "USER"]

/-- Functions that may stand without parentheses. -/
def timeFunctions : List String :=
  ["CURRENT_TIMESTAMP", "CURRENT_TIME", "CURRENT_DATE", "LOCALTIME", "LOCALTIMESTAMP"]

/-- Words that open a form of their own, which the grammar does not have. -/
def otherForms : List String :=
  ["CASE", "CAST", "TRY_CAST", "SAFE_CAST", "CONVERT", "TRY_CONVERT", "EXTRACT", "CEIL", "FLOOR",
    "SUBSTRING", "OVERLAY", "TRIM", "INTERVAL", "MATCH", "STRUCT"]

/-- Whether a query comes next. -/
def atQuery : Parser Bool :=
  atWord ["SELECT", "WITH"]

def subquery : Parser String := do
  return queryText (← inParens inner.query)

def bareCall (i : Ident) : Expr :=
  .call [i] [] { CallForm.plain with parens := false }

/-- A name, or a call of the function with that name. -/
def nameOrCall (i : Ident) : Parser Expr := do
  let parts ← qualifiedFrom i
  if ← accept .leftParen then call inner parts else return .name parts

/-- A test whether a query has a row. -/
def existsTest (negated : Bool) : Parser Expr := do
  return .other (whenWord negated "NOT" ++ "EXISTS (" ++ (← subquery inner) ++ ")")

/-- An operand that starts with a word. -/
def wordOperand (value : String) (quote : Option Char) : Parser Expr := do
  let t := Token.word value quote
  let i : Ident := ⟨value, quote⟩
  if t.isKeyword "TRUE" then return .value (.bool true)
  else if t.isKeyword "FALSE" then return .value (.bool false)
  else if t.isKeyword "NULL" then return .value .null
  else if t.isKeyword "NOT" then
    if ← acceptWord "EXISTS" then existsTest inner true
    else return .other ("NOT " ++ exprText (← inner.expr notStrength))
  else if t.isKeyword "EXISTS" then existsTest inner false
  else if t.isOneOf bareFunctions then return bareCall i
  else if t.isOneOf timeFunctions then
    if ← accept .leftParen then
      let (args, form) ← arguments inner
      return .call [i] args form
    else return bareCall i
  else if t.isKeyword "ARRAY" then
    match ← get with
    | .symbol .leftParen :: _ =>
      return .call [i] [] { CallForm.plain with query := some (← subquery inner) }
    | _ => nameOrCall inner i
  else if t.isOneOf otherForms then unexpected
  else nameOrCall inner i

/-- What stands in parentheses: a query, one expression or several. -/
def parenOperand : Parser Expr := do
  if ← atQuery then
    let q ← inner.query
    expect .rightParen
    return .other ("(" ++ queryText q ++ ")")
  else
    let es ← commaSeparated (inner.expr 0)
    expect .rightParen
    match es with
    | [e] => return .nested e
    | es => return .other ("(" ++ commaList (exprTexts es) ++ ")")

def operand : Parser Expr := do
  match ← next with
  | .word value quote => wordOperand inner value quote
  | .number text long => return .value (.number text long)
  | .text s => return .value (.text s)
  | .symbol .minus => return .minus (← inner.expr signStrength)
  | .symbol .plus => return .other ("+" ++ exprText (← inner.expr signStrength))
  | .symbol .leftParen => parenOperand inner
  | t =>
    match valueOf? t with
    | some v => return .value v
    | none => unexpected

/-! ## Operands and operators -/

/-- The test behind IS. -/
def isTest (e : Expr) : Parser Expr := do
  let negated ← acceptWord "NOT"
  match ← acceptOneOf ["NULL", "TRUE", "FALSE", "UNKNOWN"] with
  | some what => return .other (exprText e ++ " IS " ++ whenWord negated "NOT" ++ what)
  | none => unexpected

/-- The list or the query behind IN. -/
def inOperand (e : Expr) (negated : Bool) : Parser Expr := do
  expect .leftParen
  if ← atQuery then
    let q ← inner.query
    expect .rightParen
    return .other (exprText e ++ " " ++ whenWord negated "NOT" ++ "IN (" ++ queryText q ++ ")")
  else
    let items ← commaSeparated (inner.expr 0)
    expect .rightParen
    return .inList e negated items

/-- The query or the expression behind ANY or ALL. -/
def quantified : Parser String := do
  expect .leftParen
  let text ←
    if ← atQuery then queryText <$> inner.query
    else exprText <$> inner.expr 0
  expect .rightParen
  return "(" ++ text ++ ")"

/-- The expression behind a binary operator. Only a comparison can be made with ANY or ALL. -/
def binaryOperand (op : BinaryOp) (strength : Nat) (e : Expr) : Parser Expr := do
  match ← acceptOneOf ["ANY", "ALL"] with
  | none => return .binary op e (← inner.expr strength)
  | some word =>
    if op ∈ [.eq, .notEq, .lt, .ltEq, .gt, .gtEq] then
      return .other (exprText e ++ " " ++ op.symbol ++ " " ++ word ++ (← quantified inner))
    else unexpected

/-- The expression of an operator and what follows it, with the given expression on its left. -/
def applyOperator (op : Operator) (e : Expr) : Parser Expr := do
  match op with
  | .binary b strength => binaryOperand inner b strength e
  | .is => isTest e
  | .inside negated => inOperand inner e negated
  | .between negated =>
    let low ← inner.expr op.strength
    expectWord "AND"
    let high ← inner.expr op.strength
    return .other (exprText e ++ " " ++ whenWord negated "NOT" ++ "BETWEEN " ++ exprText low ++
      " AND " ++ exprText high)
  | .like negated =>
    let pattern ← inner.expr op.strength
    return .other (exprText e ++ " " ++ whenWord negated "NOT" ++ "LIKE " ++ exprText pattern)

/-- An expression with the operators behind it that bind more tightly than the strength, at most so
many of them. -/
def operators (strength : Nat) : Nat → Expr → Parser Expr
  | 0, e => return e
  | n + 1, e => fun ts =>
    match Operator.read? ts with
    | some (op, rest) =>
      if strength < op.strength then
        (do operators strength n (← applyOperator inner op e)) rest
      else .ok (e, ts)
    | none => .ok (e, ts)

def subexpr (strength : Nat) : Parser Expr := do
  let e ← operand inner
  fun ts => operators inner strength ts.length e ts

end Level

end JoinPlan.Sql.Generic
