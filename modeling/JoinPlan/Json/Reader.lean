import JoinPlan.Json.Basic
import JoinPlan.Decimal.Reader

/-!
# Reading JSON

`Json.read?` reads a JSON text. Whole numbers that fit into 64 bits, signed or unsigned, are integers
and all other numbers are doubles. Of two members with one name the later stays.
-/

namespace JoinPlan.Json

def skipBlanks (cs : List Char) : List Char :=
  cs.dropWhile fun c => c == ' ' || c == '\n' || c == '\t' || c == '\r'

def hexValue (c : Char) : Option Nat :=
  if c.isDigit then some (c.toNat - '0'.toNat)
  else if 'a' ≤ c ∧ c ≤ 'f' then some (c.toNat - 'a'.toNat + 10)
  else if 'A' ≤ c ∧ c ≤ 'F' then some (c.toNat - 'A'.toNat + 10)
  else none

/-- Four hexadecimal digits, and what follows them. -/
def readUnit : List Char → Option (Nat × List Char)
  | a :: b :: c :: d :: cs => do
    let value := ((← hexValue a) * 16 + (← hexValue b)) * 256 + (← hexValue c) * 16 + (← hexValue d)
    return (value, cs)
  | _ => none

/-- The character of an escape behind its backslash. One beyond the first plane takes two units. -/
def readEscape : List Char → Option (Char × List Char)
  | 'b' :: cs => some ('\x08', cs)
  | 'f' :: cs => some ('\x0c', cs)
  | 'n' :: cs => some ('\n', cs)
  | 'r' :: cs => some ('\r', cs)
  | 't' :: cs => some ('\t', cs)
  | 'u' :: cs => do
    let (high, rest) ← readUnit cs
    if 0xD800 ≤ high ∧ high < 0xDC00 then
      match rest with
      | '\\' :: 'u' :: more =>
        let (low, rest) ← readUnit more
        if 0xDC00 ≤ low ∧ low < 0xE000 then
          some (Char.ofNat (0x10000 + (high - 0xD800) * 0x400 + (low - 0xDC00)), rest)
        else none
      | _ => none
    else if 0xDC00 ≤ high ∧ high < 0xE000 then none
    else some (Char.ofNat high, rest)
  | c :: cs => if c = '"' ∨ c = '\\' ∨ c = '/' then some (c, cs) else none
  | [] => none

/-- The characters of a string up to its closing quote, given backwards, and what follows it. -/
def readChars : Nat → List Char → List Char → Option (String × List Char)
  | 0, _, _ => none
  | _ + 1, _, [] => none
  | fuel + 1, read, c :: cs =>
    if c = '"' then some (String.ofList read.reverse, cs)
    else if c = '\\' then
      match readEscape cs with
      | some (e, rest) => readChars fuel (e :: read) rest
      | none => none
    else readChars fuel (c :: read) cs

/-- A number without blanks around it. Zero with a sign is a double, as no integer is it. -/
def readNumber (cs : List Char) : Option Json :=
  let (negative, digits) :=
    match cs with
    | '-' :: ds => (true, ds)
    | ds => (false, ds)
  if digits.all Char.isDigit && !digits.isEmpty then
    let n := Decimal.digitsToNat digits
    if negative && n == 0 then some (.double (Double.ofDecimal true 0 0))
    else if negative && decide (n ≤ Nat.pow 2 63) then some (.int (-(n : Int)))
    else if !negative && decide (n < Nat.pow 2 64) then some (.int n)
    else some (.double (Double.ofDecimal negative n 0))
  else (Double.ofText? negative digits).map .double

def isNumberChar (c : Char) : Bool :=
  c.isDigit || c == '-' || c == '+' || c == '.' || c == 'e' || c == 'E'

mutual
/-- A value, which starts at the first character that is no blank. -/
def readValue : Nat → List Char → Option (Json × List Char)
  | 0, _ => none
  | fuel + 1, cs =>
    match skipBlanks cs with
    | 'n' :: 'u' :: 'l' :: 'l' :: rest => some (.null, rest)
    | 't' :: 'r' :: 'u' :: 'e' :: rest => some (.bool true, rest)
    | 'f' :: 'a' :: 'l' :: 's' :: 'e' :: rest => some (.bool false, rest)
    | '"' :: rest => (readChars (rest.length + 1) [] rest).map fun (s, r) => (.string s, r)
    | '[' :: rest =>
      match skipBlanks rest with
      | ']' :: r => some (.array [], r)
      | r => (readItems fuel r).map fun (items, r) => (.array items, r)
    | '\x7b' :: rest =>
      match skipBlanks rest with
      | '\x7d' :: r => some (.object [], r)
      | r => (readMembers fuel r).map fun (members, r) => (ofMembers members, r)
    | rest => (readNumber (rest.takeWhile isNumberChar)).map (·, rest.dropWhile isNumberChar)

/-- The items of an array behind its bracket or a comma. -/
def readItems : Nat → List Char → Option (List Json × List Char)
  | 0, _ => none
  | fuel + 1, cs =>
    match readValue fuel cs with
    | none => none
    | some (j, rest) =>
      match skipBlanks rest with
      | ',' :: r => (readItems fuel r).map fun (js, r) => (j :: js, r)
      | ']' :: r => some ([j], r)
      | _ => none

/-- The members of an object behind its brace or a comma. -/
def readMembers : Nat → List Char → Option (List (String × Json) × List Char)
  | 0, _ => none
  | fuel + 1, cs =>
    match skipBlanks cs with
    | '"' :: rest =>
      match readChars (rest.length + 1) [] rest with
      | none => none
      | some (name, rest) =>
        match skipBlanks rest with
        | ':' :: rest =>
          match readValue fuel rest with
          | none => none
          | some (j, rest) =>
            match skipBlanks rest with
            | ',' :: r => (readMembers fuel r).map fun (ms, r) => ((name, j) :: ms, r)
            | '\x7d' :: r => some ([(name, j)], r)
            | _ => none
        | _ => none
    | _ => none
end

/-- The value of a JSON text. No value is nested more than twice as deep as its text is long. -/
def read? (s : String) : Option Json :=
  let cs := s.toList
  match readValue (2 * cs.length + 2) cs with
  | some (j, rest) => if (skipBlanks rest).isEmpty then some j else none
  | none => none

end JoinPlan.Json
