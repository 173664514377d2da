import JoinPlan.Sql.Tree

/-!
# SQL texts

Expressions and queries written in one way: single blanks, keywords in upper case, names and numbers
as they were.
-/

namespace JoinPlan.Sql.Generic

/-! ## Names and literals -/

/-- The text within quotes, after the given character. A quote is doubled unless a backslash stands
before it or it is doubled already. -/
def doubleQuotes (quote : Char) : Char → List Char → List Char
  | _, [] => []
  | before, [c] => if c = quote ∧ before ≠ '\\' then [c, c] else [c]
  | before, c :: d :: cs =>
    if c = quote then
      if before = '\\' then c :: doubleQuotes quote before (d :: cs)
      else if d = quote then c :: c :: doubleQuotes quote c cs
      else c :: c :: doubleQuotes quote c (d :: cs)
    else c :: doubleQuotes quote c (d :: cs)

def quotedText (quote : Char) (s : String) : String :=
  String.ofList (quote :: doubleQuotes quote '\x00' s.toList ++ [quote])

def identText (i : Ident) : String :=
  match i.quote with
  | some q => quotedText q i.value
  | none => i.value

def nameText (parts : List Ident) : String :=
  ".".intercalate (parts.map identText)

def valueText : Value → String
  | .number digits long => if long then digits ++ "L" else digits
  | .text s => quotedText '\'' s
  | .doubleQuoted s => quotedText '"' s
  | .bool b => if b then "true" else "false"
  | .null => "NULL"
  | .other text => text

def commaList (texts : List String) : String :=
  ", ".intercalate texts

/-- A word and a blank behind it, if the condition holds. -/
def whenWord (condition : Bool) (word : String) : String :=
  if condition then word ++ " " else ""

/-- A clause behind its keyword, if there is one. -/
def clause (keyword : String) : Option Clause → String
  | some t => " " ++ keyword ++ " " ++ t
  | none => ""

/-! ## Expressions -/

/-- What follows the name of a call. -/
def formText (form : CallForm) (args : List String) : String :=
  let inner := (form.quantifier.map (· ++ " ")).getD "" ++
    " ".intercalate (form.query.getD (commaList args) :: form.tail)
  (if form.parens then "(" ++ inner ++ ")" else inner) ++ clause "FILTER" form.filter ++
    clause "OVER" form.window ++ String.join (form.more.map (" " ++ ·))

mutual
def exprText : Expr → String
  | .name parts => nameText parts
  | .value v => valueText v
  | .minus e => "-" ++ exprText e
  | .binary op left right => exprText left ++ " " ++ op.symbol ++ " " ++ exprText right
  | .nested e => "(" ++ exprText e ++ ")"
  | .inList e negated items =>
    exprText e ++ " " ++ whenWord negated "NOT" ++ "IN (" ++ commaList (exprTexts items) ++ ")"
  | .call name args form => nameText name ++ formText form (argumentTexts args)
  | .other text => text

def exprTexts : List Expr → List String
  | [] => []
  | e :: es => exprText e :: exprTexts es

def argumentTexts : List Argument → List String
  | [] => []
  | .expr e :: args => exprText e :: argumentTexts args
  | .star :: args => "*" :: argumentTexts args
  | .other text :: args => text :: argumentTexts args
end

/-! ## Queries -/

def aliasText (a : TableAlias) : String :=
  identText a.name ++
    (if a.columns.isEmpty then "" else " (" ++ commaList (a.columns.map identText) ++ ")")

def asText (asName : Option TableAlias) : String :=
  (asName.map fun a => " AS " ++ aliasText a).getD ""

def relationText : Relation → String
  | .table name asName args _ =>
    nameText name ++ (args.map fun es => "(" ++ es ++ ")").getD "" ++ asText asName
  | .other relation asName => relation ++ asText asName

/-- The keywords of a kind of join. -/
def sideText : JoinSide → String
  | .inner => "JOIN"
  | .leftOuter => "LEFT JOIN"
  | .other "RightOuter" => "RIGHT JOIN"
  | .other "FullOuter" => "FULL JOIN"
  | .other "LeftSemi" => "LEFT SEMI JOIN"
  | .other "RightSemi" => "RIGHT SEMI JOIN"
  | .other "LeftAnti" => "LEFT ANTI JOIN"
  | .other "RightAnti" => "RIGHT ANTI JOIN"
  | .other _ => "CROSS JOIN"

def joinText (j : Join) : String :=
  let joined := sideText j.side ++ " " ++ relationText j.relation
  match j.constraint with
  | .on e => " " ++ joined ++ " ON " ++ exprText e
  | .columns names => " " ++ joined ++ " USING(" ++ commaList (names.map identText) ++ ")"
  | .natural => " NATURAL " ++ joined
  | .none => " " ++ joined

def sourceText (s : Source) : String :=
  relationText s.relation ++ String.join (s.joins.map joinText)

def itemText : Item → String
  | .plain e => exprText e
  | .named e asName => exprText e ++ " AS " ++ identText asName
  | .star => "*"
  | .tableStar parts => nameText parts ++ ".*"

def groupingText? : Grouping → Option String
  | .all modifiers => some (" ".intercalate ("ALL" :: modifiers))
  | .by [] _ => none
  | .by es modifiers => some (" ".intercalate (commaList (exprTexts es) :: modifiers))

/-- WINDOW and QUALIFY as they stood. -/
def lateText (s : Select) : String :=
  if s.windowsFirst then clause "WINDOW" s.windows ++ clause "QUALIFY" s.qualify
  else clause "QUALIFY" s.qualify ++ clause "WINDOW" s.windows

def selectText (s : Select) : String :=
  "SELECT " ++ (s.distinct.map (· ++ " ")).getD "" ++ commaList (s.items.map itemText) ++
    clause "FROM" (if s.sources.isEmpty then none else commaList (s.sources.map sourceText)) ++
    clause "WHERE" (s.selection.map exprText) ++ clause "GROUP BY" (groupingText? s.grouping) ++
    clause "HAVING" (s.having.map exprText) ++ lateText s

def bodyText : Body → String
  | .select s => selectText s
  | .other body => body

def queryText (q : Query) : String :=
  (q.commonTables.map fun t => "WITH " ++ t ++ " ").getD "" ++ bodyText q.body ++
    clause "ORDER BY" q.orderBy ++ clause "LIMIT" q.limit ++ clause "OFFSET" q.offset ++
    clause "FETCH" q.fetch

end JoinPlan.Sql.Generic
