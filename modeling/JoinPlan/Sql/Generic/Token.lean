/-!
# Tokens of SQL

A statement is read as a list of tokens. A word without quotes is a keyword when its upper-case form
is one, so that the grammar decides where a keyword may stand as a name.
-/

namespace JoinPlan.Sql.Generic

inductive Symbol where
  | leftParen | rightParen | comma | period | semicolon
  | star | plus | minus | slash | intSlash | percent | concat
  | pipe | ampersand | caret | shiftLeft | shiftRight
  | eq | doubleEq | notEq | lt | ltEq | gt | gtEq | spaceship
  | arrow | assign
  /-- A sign that nothing in the grammar starts with. -/
  | other (text : String)
deriving DecidableEq, Repr

inductive Token where
  /-- A name or a keyword, and the quote around it if it has one. -/
  | word (value : String) (quote : Option Char)
  /-- A number as it is written, and whether an `L` stands behind it. -/
  | number (text : String) (long : Bool)
  | text (value : String)
  /-- A text with an `N` before it. -/
  | national (value : String)
  /-- The digits of a hexadecimal literal. -/
  | hex (digits : String)
  /-- A place for a value, such as `?` or `$1`. -/
  | placeholder (text : String)
  | symbol (s : Symbol)
deriving DecidableEq, Repr

/-- The upper-case form of a letter, as far as it is in ASCII. Besides the small letters of ASCII,
ten others have such a form. -/
def upperOf (c : Char) : List Char :=
  match c with
  | 'ß' => ['S', 'S']
  | 'ı' => ['I']
  | 'ſ' => ['S']
  | 'ﬀ' => ['F', 'F']
  | 'ﬁ' => ['F', 'I']
  | 'ﬂ' => ['F', 'L']
  | 'ﬃ' => ['F', 'F', 'I']
  | 'ﬄ' => ['F', 'F', 'L']
  | 'ﬅ' => ['S', 'T']
  | 'ﬆ' => ['S', 'T']
  | c => [c.toUpper]

/-- The text by which a word is compared with keywords. -/
def keywordText (word : String) : String :=
  String.ofList (word.toList.flatMap upperOf)

namespace Token

/-- Whether the token is the keyword, which is given in upper case. -/
def isKeyword (keyword : String) : Token → Bool
  | .word value none => keywordText value == keyword
  | _ => false

def isOneOf (keywords : List String) (t : Token) : Bool :=
  keywords.any t.isKeyword

end Token

end JoinPlan.Sql.Generic
