/-!
# Column references

A reference names a column and may say to which side it belongs. As text the qualifier stands before
the first dot.
-/

namespace JoinPlan

/-- The text before the first dot, if there is one, and the text behind it. -/
def splitQualifier (raw : String) : Option String × String :=
  let cs := raw.toList
  match cs.dropWhile (· ≠ '.') with
  | [] => (none, raw)
  | _ :: rest => (some (String.ofList (cs.takeWhile (· ≠ '.'))), String.ofList rest)

structure Column where
  qualifier : Option String
  name : String
deriving DecidableEq, Repr, Inhabited

namespace Column

def bare (name : String) : Column := ⟨none, name⟩

/-- An empty qualifier is none. -/
def qualified (qualifier name : String) : Column :=
  ⟨if qualifier = "" then none else some qualifier, name⟩

def parse (raw : String) : Column :=
  match splitQualifier raw with
  | (some qualifier, name) => qualified qualifier name
  | (none, name) => bare name

def text (c : Column) : String :=
  match c.qualifier with
  | some qualifier => qualifier ++ "." ++ c.name
  | none => c.name

def isQualified (c : Column) : Bool :=
  c.qualifier.isSome

/-- The names agree, and the qualifiers agree where both have one. -/
def agrees (a b : Column) : Bool :=
  a.name == b.name &&
    match a.qualifier, b.qualifier with
    | some p, some q => p == q
    | _, _ => true

/-- The order by qualifier and then by name. A reference without a qualifier comes first. -/
def order (a b : Column) : Ordering :=
  let byQualifier : Ordering :=
    match a.qualifier, b.qualifier with
    | none, none => .eq
    | none, some _ => .lt
    | some _, none => .gt
    | some p, some q => compare p q
  byQualifier.then (compare a.name b.name)

end Column

end JoinPlan
