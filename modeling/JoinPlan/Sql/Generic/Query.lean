import JoinPlan.Sql.Dialect
import JoinPlan.Sql.Generic.Expr

/-!
# The grammar of queries and statements

Reads the queries that a plan can be made from, and as much of other queries and statements as it
takes to tell that they are well formed.
-/

namespace JoinPlan.Sql.Generic

open JoinPlan.Sql.Generic.Parser

/-! ## Keywords that are no aliases -/

def reservedAsAlias : List String :=
  ["WITH", "EXPLAIN", "ANALYZE", "SELECT", "WHERE", "GROUP", "SORT", "HAVING", "ORDER", "TOP",
    "LATERAL", "VIEW", "LIMIT", "OFFSET", "FETCH", "UNION", "EXCEPT", "INTERSECT", "CLUSTER",
    "DISTRIBUTE", "RETURNING", "END"]

def reservedAsColumnAlias : List String :=
  reservedAsAlias ++ ["FROM", "INTO"]

def reservedAsTableAlias : List String :=
  reservedAsAlias ++
    ["PIVOT", "UNPIVOT", "ON", "JOIN", "INNER", "CROSS", "FULL", "LEFT", "RIGHT", "NATURAL", "USING",
      "GLOBAL", "ANTI", "SEMI", "ASOF", "MATCH_CONDITION", "OUTER", "SET", "QUALIFY", "WINDOW", "FOR",
      "PARTITION", "PREWHERE", "SETTINGS", "FORMAT", "START", "CONNECT", "MATCH_RECOGNIZE"]

namespace Level

variable (inner : Level)

/-! ## Tables and joins -/

def columnNames : Parser (List Ident) :=
  inParens (commaSeparated ident)

def tableAlias : Parser (Option TableAlias) := do
  match ← aliasName? reservedAsTableAlias with
  | none => return none
  | some name =>
    match ← get with
    | .symbol .leftParen :: _ => return some ⟨name, ← columnNames⟩
    | _ => return some ⟨name, []⟩

def constraint : Parser JoinConstraint := do
  if ← acceptWord "ON" then return .on (← inner.expr 0)
  else if ← acceptWord "USING" then return .columns (← columnNames)
  else return .none

/-- The kind of join that comes next, if a join does. -/
def joinSide : Parser (Option JoinSide) := do
  if ← acceptWord "INNER" then
    expectWord "JOIN"
    return some .inner
  else if ← acceptWord "JOIN" then return some .inner
  else if ← acceptWord "LEFT" then some <$> outerSide .leftOuter "LeftSemi" "LeftAnti"
  else if ← acceptWord "RIGHT" then some <$> outerSide (.other "RightOuter") "RightSemi" "RightAnti"
  else if ← acceptWord "FULL" then
    let _ ← acceptWord "OUTER"
    expectWord "JOIN"
    return some (.other "FullOuter")
  else if ← atWord ["OUTER"] then unexpected
  else return none
where
  /-- The join behind LEFT or RIGHT. -/
  outerSide (outer : JoinSide) (semi anti : String) : Parser JoinSide := do
    match ← acceptOneOf ["OUTER", "SEMI", "ANTI", "JOIN"] with
    | some "JOIN" => return outer
    | some "OUTER" =>
      expectWord "JOIN"
      return outer
    | some "SEMI" =>
      expectWord "JOIN"
      return .other semi
    | some "ANTI" =>
      expectWord "JOIN"
      return .other anti
    | _ => unexpected

/-- The next join, if there is one. -/
def join? (relation : Parser Relation) : Parser (Option Join) := do
  let more := if ← acceptWord "GLOBAL" then ["GLOBAL"] else []
  if ← acceptWord "CROSS" then
    expectWord "JOIN"
    return some (Join.mk (.other "CrossJoin") (← relation) .none more)
  else
    let natural ← acceptWord "NATURAL"
    match ← joinSide with
    | some side =>
      let table ← relation
      let constraint ← if natural then pure .natural else constraint inner
      return some (Join.mk side table constraint more)
    | none => if natural then unexpected else return none

def joins (relation : Parser Relation) : Nat → Parser (List Join)
  | 0 => return []
  | n + 1 => do
    match ← join? inner relation with
    | some j => return j :: (← joins relation n)
    | none => return []

def sourceOf (relation : Parser Relation) : Parser Source := do
  let table ← relation
  let joins ← fun ts => joins inner relation ts.length ts
  return ⟨table, joins⟩

/-- A query behind an opening parenthesis. -/
def queryRelation : Parser Relation := do
  let q ← inner.query
  expect .rightParen
  return .other ("(" ++ queryText q ++ ")") (← tableAlias)

/-- What stands in parentheses without being a query: joined tables, or one table that needs no
parentheses. Of an alias within the parentheses and one behind them only one may be there. -/
def parenRelation (source : Parser Source) : Parser Relation := do
  let s ← source
  expect .rightParen
  let outside ← tableAlias
  match s.joins, s.relation, outside with
  | [], .table name none args more, asName => return .table name asName args more
  | [], .other text none, asName => return .other text asName
  | [], relation, none => return relation
  | [], _, some _ => unexpected
  | _ :: _, _, asName => return .other ("(" ++ sourceText s ++ ")") asName

/-- The arguments of a table function up to the closing parenthesis. -/
def tableArguments : Parser Clause := do
  if ← accept .rightParen then return ""
  let args ← commaSeparated (argument inner)
  expect .rightParen
  return commaList (argumentTexts args)

/-- A table, a table function, or what stands in parentheses, which are nested at most so deep. -/
def relation : Nat → Parser Relation
  | 0 => unexpected
  | n + 1 => do
    if ← accept .leftParen then
      fun ts =>
        match queryRelation inner ts with
        | .error .tooDeep => .error .tooDeep
        | .error _ => parenRelation (sourceOf inner (relation n)) ts
        | ok => ok
    else
      let name ← qualifiedName
      let args ← if ← accept .leftParen then some <$> tableArguments inner else pure none
      return .table name (← tableAlias) args []

def source : Parser Source := fun ts =>
  sourceOf inner (relation inner (ts.length + 1)) ts

/-! ## The clauses of a query -/

def item : Parser Item := do
  match ← exprOrStar inner with
  | .plain e =>
    if isFrom e then unexpected
    else
      match ← aliasName? reservedAsColumnAlias with
      | some asName => return .named e asName
      | none => return .plain e
  | item => return item
where
  /-- Whether an expression is the keyword FROM, so that an item is missing before it. -/
  isFrom : Expr → Bool
    | .name [⟨value, none⟩] => keywordText value == "FROM"
    | _ => false

/-- The modifiers behind a grouping. -/
def modifiers : Nat → Parser (List Clause)
  | 0 => return []
  | n + 1 => do
    if ← acceptWord "WITH" then
      match ← acceptOneOf ["ROLLUP", "CUBE", "TOTALS"] with
      | some word => return ("WITH " ++ word) :: (← modifiers n)
      | none => unexpected
    else return []

def groupKey : Parser Expr := fun ts =>
  match ts with
  | .symbol .leftParen :: .symbol .rightParen :: rest => .ok (.other "()", rest)
  | ts => inner.expr 0 ts

def grouping : Parser Grouping := do
  if ← acceptWords ["GROUP", "BY"] then
    if ← acceptWord "ALL" then return .all (← allModifiers)
    else
      let keys ← commaSeparated (groupKey inner)
      return .by keys (← allModifiers)
  else return .by [] []
where
  allModifiers : Parser (List Clause) := fun ts => modifiers ts.length ts

/-- A clause with an expression, if its keyword comes next. -/
def exprClause (keyword : String) : Parser (Option Expr) := do
  if ← acceptWord keyword then some <$> inner.expr 0 else return none

/-- DISTINCT, behind which keys can stand, if it comes next. ALL says nothing. -/
def distinct : Parser (Option Clause) := do
  match ← quantifier with
  | some "DISTINCT" =>
    if ← acceptWord "ON" then return some ("DISTINCT ON (" ++ commaList (← distinctKeys) ++ ")")
    else return some "DISTINCT"
  | _ => return none
where
  distinctKeys : Parser (List String) := do
    expect .leftParen
    if ← accept .rightParen then return []
    let keys ← commaSeparated (inner.expr 0)
    expect .rightParen
    return exprTexts keys

def namedWindow : Parser Clause := do
  let name ← ident
  expectWord "AS"
  return identText name ++ " AS " ++ (← window inner)

def windowClause : Parser (Option Clause) := do
  if ← acceptWord "WINDOW" then
    return some (commaList (← commaSeparated (namedWindow inner)))
  else return none

/-- WINDOW and QUALIFY in either order, and whether WINDOW comes first. -/
def lateClauses : Parser (Option Clause × Option Clause × Bool) := do
  match ← windowClause inner with
  | some windows => return (some windows, (← exprClause inner "QUALIFY").map exprText, true)
  | none =>
    let qualify ← exprClause inner "QUALIFY"
    let windows ← if qualify.isSome then windowClause inner else pure none
    return (windows, qualify.map exprText, false)

def select : Parser Select := do
  expectWord "SELECT"
  let distinct ← distinct inner
  let items ← commaSeparated (item inner)
  let sources ← if ← acceptWord "FROM" then commaSeparated (source inner) else pure []
  let selection ← exprClause inner "WHERE"
  let grouping ← grouping inner
  let having ← exprClause inner "HAVING"
  let (windows, qualify, windowsFirst) ← lateClauses inner
  return ⟨distinct, items, sources, selection, grouping, having, windows, qualify, windowsFirst, []⟩

/-! ## Queries -/

/-- The rows behind VALUES. -/
def rows : Parser String := do
  let rows ← commaSeparated (inParens (commaSeparated (inner.expr 0)))
  return commaList (rows.map fun row => "(" ++ commaList (exprTexts row) ++ ")")

/-- How tightly a set operation binds. -/
def setStrength (keyword : String) : Nat :=
  if keyword = "INTERSECT" then 20 else 10

/-- A body with the set operations behind it that bind more tightly than the strength, at most so
many of them. -/
def setOperations (operand : Nat → Parser Body) (strength : Nat) : Nat → Body → Parser Body
  | 0, left => return left
  | n + 1, left => fun ts =>
    match acceptOneOf ["UNION", "EXCEPT", "INTERSECT"] ts with
    | .ok (some keyword, rest) =>
      if strength < setStrength keyword then
        (do
          let quantifier ← quantifier
          let right ← operand (setStrength keyword)
          setOperations operand strength n (.other (" ".intercalate
            ([bodyText left, keyword] ++ quantifier.toList ++ [bodyText right])))) rest
      else .ok (left, ts)
    | _ => .ok (left, ts)

/-- The body of a query, with at most so many set operations in it. -/
def body : Nat → Nat → Parser Body
  | 0, _ => unexpected
  | n + 1, strength => do
    let first ←
      if ← atWord ["SELECT"] then Body.select <$> select inner
      else if ← acceptWord "VALUES" then (fun r => Body.other ("VALUES " ++ r)) <$> rows inner
      else (fun q => Body.other ("(" ++ q ++ ")")) <$> subquery inner
    fun ts => setOperations (body n) strength ts.length first ts

/-- The common tables behind WITH. -/
def commonTables : Parser Clause := do
  let recursive ← acceptWord "RECURSIVE"
  let tables ← commaSeparated commonTable
  return whenWord recursive "RECURSIVE" ++ commaList tables
where
  commonTable : Parser String := do
    let name ← ident
    let columns ←
      match ← get with
      | .symbol .leftParen :: _ => columnNames
      | _ => pure []
    expectWord "AS"
    return aliasText ⟨name, columns⟩ ++ " AS (" ++ (← subquery inner) ++ ")"

/-- A count of rows to skip. -/
def offset : Parser Clause := do
  let e ← inner.expr 0
  let unit ← acceptOneOf ["ROW", "ROWS"]
  return " ".intercalate (exprText e :: unit.toList)

/-- The limit and the offset of a query, in either order. -/
def bounds : Parser (Option Clause × Option Clause) := do
  let before ← if ← acceptWord "OFFSET" then some <$> offset inner else pure none
  let limit ←
    if ← acceptWord "LIMIT" then
      if ← acceptWord "ALL" then pure none else (some ∘ exprText) <$> inner.expr 0
    else pure none
  let after ←
    if before.isNone then
      if ← acceptWord "OFFSET" then some <$> offset inner else pure none
    else pure before
  return (limit, after)

/-- A count of rows to keep. -/
def fetch : Parser Clause := do
  if (← acceptOneOf ["FIRST", "NEXT"]).isNone then unexpected
  let count ←
    if (← acceptOneOf ["ROW", "ROWS"]).isSome then pure []
    else
      match valueOf? (← next) with
      | some v =>
        let percent ← acceptWord "PERCENT"
        if (← acceptOneOf ["ROW", "ROWS"]).isNone then unexpected
        pure (valueText v :: if percent then ["PERCENT"] else [])
      | none => unexpected
  let last ←
    if ← acceptWord "ONLY" then pure "ONLY"
    else if ← acceptWords ["WITH", "TIES"] then pure "WITH TIES"
    else unexpected
  return " ".intercalate (["FIRST"] ++ count ++ ["ROWS", last])

def readQuery : Parser Query := do
  let tables ← if ← acceptWord "WITH" then some <$> commonTables inner else pure none
  let body ← fun ts => body inner (ts.length + 1) 0 ts
  let order ← orderKeys inner
  let (limit, offset) ← bounds inner
  let fetch ← if ← acceptWord "FETCH" then some <$> fetch else pure none
  return ⟨tables, body, order, limit, offset, fetch, []⟩

/-- The level above. -/
def above : Level := ⟨inner.subexpr, inner.readQuery⟩

/-- The level with so many levels below it. -/
def ofDepth : Nat → Level
  | 0 => .bottom
  | n + 1 => above (ofDepth n)

/-! ## Statements -/

/-- A statement that puts rows into a table. -/
def insertStatement : Parser Unit := do
  let _ ← acceptWord "INTO"
  let _ ← acceptWord "TABLE"
  let _ ← qualifiedName
  if ← acceptWords ["DEFAULT", "VALUES"] then return
  match ← get with
  | .symbol .leftParen :: t :: _ =>
    unless t.isOneOf ["SELECT", "WITH"] do
      let _ ← columnNames
  | _ => pure ()
  let _ ← inner.query

/-- A statement that removes tables or other things with names. -/
def dropStatement : Parser Unit := do
  let kind ← acceptOneOf
    ["TABLE", "VIEW", "INDEX", "ROLE", "SCHEMA", "DATABASE", "SEQUENCE", "STAGE", "TYPE"]
  if kind.isNone then unexpected
  let _ ← acceptWords ["IF", "EXISTS"]
  let _ ← commaSeparated qualifiedName
  let _ ← acceptOneOf ["CASCADE", "RESTRICT"]

def statement : Parser Statement := do
  if ← acceptWord "INSERT" then
    insertStatement inner
    return .other
  else if ← acceptWord "DROP" then
    dropStatement
    return .other
  else
    match ← get with
    | .symbol .leftParen :: _ => return .query (← inner.query)
    | _ =>
      if ← atWord ["SELECT", "WITH", "VALUES"] then return .query (← inner.query) else unexpected

/-- At most so many statements, with a semicolon between each two. Empty ones are skipped, and a
statement may be followed by END, which ends the text. -/
def statements : Nat → Parser (List Statement)
  | 0 => unexpected
  | n + 1 => do
    match ← get with
    | [] => return []
    | .symbol .semicolon :: rest =>
      set rest
      statements n
    | _ =>
      let first ← statement inner
      if ← accept .semicolon then return first :: (← statements n)
      else
        match ← get with
        | [] => return [first]
        | t :: _ => if t.isKeyword "END" then return [first] else unexpected

end Level

/-! ## Reading texts -/

/-- How deep expressions and queries can be nested within each other. -/
def depthLimit : Nat := 50

/-- The expression at the front of a list of tokens. -/
def parseExpr (tokens : List Token) : Except SyntaxError (Expr × List Token) :=
  (Level.ofDepth depthLimit).expr 0 tokens

/-- The statements of a text. A statement counts as one level. -/
def parseStatements (sql : String) : Except SyntaxError (List Statement) := do
  let tokens ← lex sql
  let (statements, _) ← (Level.ofDepth (depthLimit - 1)).statements (tokens.length + 1) tokens
  return statements

end JoinPlan.Sql.Generic

namespace JoinPlan.Sql

/-- The dialect in which statements are run. It is wide enough for all that a plan is made of. -/
def Dialect.generic : Dialect where
  Token := Generic.Token
  tokens text := (Generic.lex text).mapError Generic.SyntaxError.text
  expr tokens := (Generic.parseExpr tokens).mapError Generic.SyntaxError.text
  statements sql := (Generic.parseStatements sql).mapError Generic.SyntaxError.text
  text := Generic.exprText
  identText := Generic.identText

end JoinPlan.Sql
