import JoinPlan.Sql.Generic.Token
import JoinPlan.Text.Blank
import JoinPlan.Text.Letter

/-!
# From text to tokens

`lex` splits a text into tokens and leaves out blanks and comments. It fails only where a quote or a
comment is not closed.
-/

namespace JoinPlan.Sql.Generic

inductive SyntaxError where
  /-- A quoted text or a comment has no end. -/
  | unterminated
  /-- A token stands where the grammar has no place for it, or the text ends too early. -/
  | unexpected
  /-- Parentheses, operators or queries are nested too deeply. -/
  | tooDeep
deriving DecidableEq, Repr

def SyntaxError.text : SyntaxError → String
  | .unterminated => "sql parser error: a quoted text or a comment is not closed"
  | .unexpected => "sql parser error: unexpected token or end of text"
  | .tooDeep => "sql parser error: nested too deeply"

/-! ## Names -/

def isNameStart (c : Char) : Bool :=
  Text.isLetter c || c == '_' || c == '#' || c == '@'

def isNamePart (c : Char) : Bool :=
  isNameStart c || c.isDigit || c == '$'

/-- A word that starts with the given characters. -/
def readWord (start cs : List Char) : Token × List Char :=
  (.word (String.ofList (start ++ cs.takeWhile isNamePart)) none, cs.dropWhile isNamePart)

/-! ## Quotes and comments -/

/-- The text up to the closing quote, and what follows it. A doubled quote stands for one. -/
def readQuoted (quote : Char) : List Char → Option (List Char × List Char)
  | [] => none
  | [c] => if c = quote then some ([], []) else none
  | c :: d :: cs =>
    if c = quote then
      if d = quote then (readQuoted quote cs).map fun (s, rest) => (c :: s, rest)
      else some ([], d :: cs)
    else (readQuoted quote (d :: cs)).map fun (s, rest) => (c :: s, rest)

def readQuotedAs (token : String → Token) (quote : Char) (cs : List Char) :
    Except SyntaxError (Option Token × List Char) :=
  match readQuoted quote cs with
  | some (s, rest) => .ok (some (token (String.ofList s)), rest)
  | none => .error .unterminated

/-- What follows a comment that is `depth + 1` comments deep. The character before tells whether a
star or a slash completes a sign. -/
def skipComment : Nat → Char → List Char → Option (List Char)
  | _, _, [] => none
  | depth, before, c :: cs =>
    if before = '/' ∧ c = '*' then skipComment (depth + 1) c cs
    else if before = '*' ∧ c = '/' then
      match depth with
      | 0 => some cs
      | depth + 1 => skipComment depth c cs
    else skipComment depth c cs

/-- What follows a comment to the end of the line. -/
def skipLine (cs : List Char) : List Char :=
  (cs.dropWhile (· ≠ '\n')).drop 1

/-! ## Numbers -/

/-- The exponent at the start of a text: an `e`, a sign or none, and digits. -/
def readExponentPart (cs : List Char) : List Char × List Char :=
  match cs with
  | e :: rest =>
    if e = 'e' ∨ e = 'E' then
      let (sign, digits) :=
        match rest with
        | '+' :: ds => (['+'], ds)
        | '-' :: ds => (['-'], ds)
        | ds => ([], ds)
      if (digits.takeWhile Char.isDigit).isEmpty then ([], cs)
      else (e :: sign ++ digits.takeWhile Char.isDigit, digits.dropWhile Char.isDigit)
    else ([], cs)
  | [] => ([], cs)

/-- A number, or the lone point that names are joined with. -/
def readNumber (cs : List Char) : Token × List Char :=
  let whole := cs.takeWhile Char.isDigit
  match whole, cs.dropWhile Char.isDigit with
  | ['0'], 'x' :: rest =>
    (.hex (String.ofList (rest.takeWhile isHexDigit)), rest.dropWhile isHexDigit)
  | whole, rest =>
    let (point, rest) :=
      match rest with
      | '.' :: r => (['.'], r)
      | r => ([], r)
    let fraction := rest.takeWhile Char.isDigit
    if whole.isEmpty && fraction.isEmpty then (.symbol .period, rest)
    else
      let (exponent, rest) := readExponentPart (rest.dropWhile Char.isDigit)
      let text := String.ofList (whole ++ point ++ fraction ++ exponent)
      match rest with
      | 'L' :: r => (.number text true, r)
      | r => (.number text false, r)
where
  isHexDigit (c : Char) : Bool :=
    c.isDigit || ('a' ≤ c && c ≤ 'f') || ('A' ≤ c && c ≤ 'F')

/-! ## Signs -/

/-- The sign that a text starts with. -/
def readSymbol (c : Char) (cs : List Char) : Symbol × List Char :=
  match c, cs with
  | '(', cs => (.leftParen, cs)
  | ')', cs => (.rightParen, cs)
  | ',', cs => (.comma, cs)
  | ';', cs => (.semicolon, cs)
  | '*', cs => (.star, cs)
  | '+', cs => (.plus, cs)
  | '-', '>' :: '>' :: cs => (.other "->>", cs)
  | '-', '>' :: cs => (.other "->", cs)
  | '-', cs => (.minus, cs)
  | '/', '/' :: cs => (.intSlash, cs)
  | '/', cs => (.slash, cs)
  | '%', cs => (.percent, cs)
  | '|', '|' :: '/' :: cs => (.other "||/", cs)
  | '|', '|' :: cs => (.concat, cs)
  | '|', '/' :: cs => (.other "|/", cs)
  | '|', cs => (.pipe, cs)
  | '&', '&' :: cs => (.other "&&", cs)
  | '&', cs => (.ampersand, cs)
  | '^', '@' :: cs => (.other "^@", cs)
  | '^', cs => (.caret, cs)
  | '=', '>' :: cs => (.arrow, cs)
  | '=', '=' :: cs => (.doubleEq, cs)
  | '=', cs => (.eq, cs)
  | '!', '=' :: cs => (.notEq, cs)
  | '<', '=' :: '>' :: cs => (.spaceship, cs)
  | '<', '=' :: cs => (.ltEq, cs)
  | '<', '>' :: cs => (.notEq, cs)
  | '<', '<' :: cs => (.shiftLeft, cs)
  | '<', '@' :: cs => (.other "<@", cs)
  | '<', cs => (.lt, cs)
  | '>', '=' :: cs => (.gtEq, cs)
  | '>', '>' :: cs => (.shiftRight, cs)
  | '>', cs => (.gt, cs)
  | ':', '=' :: cs => (.assign, cs)
  | ':', ':' :: cs => (.other "::", cs)
  | c, cs => (.other (String.ofList [c]), cs)

/-- A word behind a sign that words may start with. The character behind it belongs to the word,
whatever it is, unless it makes an operator with the sign. -/
def readSignedWord (sign : Char) (operators : List Char) (cs : List Char) : Token × List Char :=
  match cs with
  | [] => (.symbol (.other (String.ofList [sign])), [])
  | c :: rest =>
    if c = ' ' then (.symbol (.other (String.ofList [sign])), cs)
    else if c ∈ operators then (.symbol (.other (String.ofList [sign, c])), rest)
    else readWord [sign, c] rest

/-! ## Texts -/

/-- The first token of a text, unless it starts with a blank or a comment, and what follows. -/
def readToken (c : Char) (cs : List Char) : Except SyntaxError (Option Token × List Char) :=
  let single (t : Token × List Char) := Except.ok (some t.1, t.2)
  if Text.isBlank c then .ok (none, cs)
  else
    match c, cs with
    | 'n', '\'' :: rest => readQuotedAs .national '\'' rest
    | 'N', '\'' :: rest => readQuotedAs .national '\'' rest
    | 'x', '\'' :: rest => readQuotedAs .hex '\'' rest
    | 'X', '\'' :: rest => readQuotedAs .hex '\'' rest
    | '\'', rest => readQuotedAs .text '\'' rest
    | '"', rest => readQuotedAs (.word · (some '"')) '"' rest
    | '`', rest => readQuotedAs (.word · (some '`')) '`' rest
    | '-', '-' :: rest => .ok (none, skipLine rest)
    | '/', '*' :: rest =>
      match skipComment 0 ' ' rest with
      | some after => .ok (none, after)
      | none => .error .unterminated
    | '?', rest =>
      .ok (some (.placeholder (String.ofList ('?' :: rest.takeWhile Char.isDigit))),
        rest.dropWhile Char.isDigit)
    | '$', rest =>
      let isPart (c : Char) := Text.isLetter c || c.isDigit || c == '_'
      .ok (some (.placeholder (String.ofList ('$' :: rest.takeWhile isPart))), rest.dropWhile isPart)
    | '#', rest => single (readSignedWord '#' ['-', '>'] rest)
    | '@', rest => single (readSignedWord '@' ['>', '?'] rest)
    | c, rest =>
      if c.isDigit || c == '.' then single (readNumber (c :: rest))
      else if isNameStart c then single (readWord [c] rest)
      else
        let (s, after) := readSymbol c rest
        .ok (some (.symbol s), after)

/-- The tokens of a text that is not longer than the number. -/
def lexWithin : Nat → List Char → Except SyntaxError (List Token)
  | _, [] => .ok []
  | 0, _ => .ok []
  | n + 1, c :: cs => do
    let (token, rest) ← readToken c cs
    let tokens ← lexWithin n rest
    return token.toList ++ tokens

def lex (s : String) : Except SyntaxError (List Token) :=
  let cs := s.toList
  lexWithin cs.length cs

end JoinPlan.Sql.Generic
