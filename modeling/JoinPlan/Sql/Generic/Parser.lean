import JoinPlan.Sql.Generic.Lexer
import JoinPlan.Sql.Generic.Printer

/-!
# Reading from a list of tokens

The steps that the grammar is made of. A parser takes tokens from the front of a list and leaves the
rest. Expressions and queries within others are read by the parsers of the next level, of which there
are only so many.
-/

namespace JoinPlan.Sql.Generic

abbrev Parser := StateT (List Token) (Except SyntaxError)

namespace Parser

/-! ## Single tokens -/

def unexpected {α : Type} : Parser α :=
  throw .unexpected

/-- The next token, which is taken. -/
def next : Parser Token := fun ts =>
  match ts with
  | t :: rest => .ok (t, rest)
  | [] => .error .unexpected

/-- Whether the next token is the sign, which is then taken. -/
def accept (s : Symbol) : Parser Bool := fun ts =>
  match ts with
  | .symbol s' :: rest => if s' = s then .ok (true, rest) else .ok (false, ts)
  | _ => .ok (false, ts)

def expect (s : Symbol) : Parser Unit := fun ts =>
  match ts with
  | .symbol s' :: rest => if s' = s then .ok ((), rest) else .error .unexpected
  | _ => .error .unexpected

/-- Whether the next tokens are the keywords, which are then taken. -/
def acceptWords (keywords : List String) : Parser Bool := fun ts =>
  if (ts.take keywords.length).length = keywords.length ∧
      (ts.zip keywords).all fun (t, k) => t.isKeyword k then
    .ok (true, ts.drop keywords.length)
  else .ok (false, ts)

def acceptWord (keyword : String) : Parser Bool :=
  acceptWords [keyword]

/-- The keyword of the list that the next token is. The keyword is taken. -/
def acceptOneOf (keywords : List String) : Parser (Option String) := fun ts =>
  match ts with
  | t :: rest =>
    match keywords.find? t.isKeyword with
    | some k => .ok (some k, rest)
    | none => .ok (none, ts)
  | [] => .ok (none, ts)

def expectWord (keyword : String) : Parser Unit := do
  unless ← acceptWord keyword do unexpected

/-- Whether the next token is one of the keywords, which is left in place. -/
def atWord (keywords : List String) : Parser Bool := fun ts =>
  match ts with
  | t :: _ => .ok (t.isOneOf keywords, ts)
  | [] => .ok (false, ts)

/-! ## Lists -/

/-- At most so many items, with a comma between each two. -/
def separated {α : Type} (item : Parser α) : Nat → Parser (List α)
  | 0 => unexpected
  | n + 1 => do
    let x ← item
    if ← accept .comma then return x :: (← separated item n) else return [x]

/-- One or more items, with a comma between each two. -/
def commaSeparated {α : Type} (item : Parser α) : Parser (List α) := fun ts =>
  separated item (ts.length + 1) ts

def inParens {α : Type} (p : Parser α) : Parser α := do
  expect .leftParen
  let x ← p
  expect .rightParen
  return x

/-- The literal that a token is. -/
def valueOf? : Token → Option Value
  | .number text long => some (.number text long)
  | .text s => some (.text s)
  | .national s => some (.other ("N'" ++ s ++ "'"))
  | .hex digits => some (.other ("X'" ++ digits ++ "'"))
  | .placeholder text => some (.other text)
  | t =>
    if t.isKeyword "TRUE" then some (.bool true)
    else if t.isKeyword "FALSE" then some (.bool false)
    else if t.isKeyword "NULL" then some .null
    else none

/-! ## Names -/

def identOf? : Token → Option Ident
  | .word value quote => some ⟨value, quote⟩
  | .text value => some ⟨value, some '\''⟩
  | _ => none

def ident : Parser Ident := do
  match identOf? (← next) with
  | some i => return i
  | none => unexpected

/-- The parts of a name behind the first one, each after a point. -/
def qualifiedParts : Nat → Parser (List Ident)
  | 0 => return []
  | n + 1 => do
    if ← accept .period then return (← ident) :: (← qualifiedParts n) else return []

def qualifiedFrom (first : Ident) : Parser (List Ident) := fun ts =>
  (do return first :: (← qualifiedParts ts.length)) ts

def qualifiedName : Parser (List Ident) := do
  qualifiedFrom (← ident)

/-- A name behind AS, or without it unless it is one of the keywords. -/
def aliasName? (reserved : List String) : Parser (Option Ident) := do
  let explicit ← acceptWord "AS"
  fun ts =>
    match ts with
    | .word value quote :: rest =>
      if explicit || !(Token.word value quote).isOneOf reserved then
        .ok (some ⟨value, quote⟩, rest)
      else .ok (none, ts)
    | .text value :: rest => .ok (some ⟨value, some '\''⟩, rest)
    | _ => if explicit then .error .unexpected else .ok (none, ts)

end Parser

/-! ## Levels -/

/-- The parsers for what is nested within an expression or a query. An expression is read as far as
its operators bind more tightly than the given strength. -/
structure Level where
  expr : Nat → Parser Expr
  query : Parser Query

/-- The level below the last, on which nothing can be read. -/
def Level.bottom : Level := ⟨fun _ => throw .tooDeep, throw .tooDeep⟩

end JoinPlan.Sql.Generic
