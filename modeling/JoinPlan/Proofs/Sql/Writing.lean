import JoinPlan.Sql.Dialect

/-!
# How expressions are written

Names, literals, comparisons and lists of literals, joined by AND and OR, as they are written in any
dialect: OR binds less tightly than AND and AND less than a comparison, operators that bind alike are
applied from left to right, and parentheses go against that.
-/

namespace JoinPlan.Sql

/-! ## Names -/

/-- A letter of ASCII or an underscore. -/
def isPlainStart (c : Char) : Bool :=
  c.isAlpha || c == '_'

def isPlainPart (c : Char) : Bool :=
  isPlainStart c || c.isDigit

def isPlainWord : List Char → Bool
  | [] => false
  | c :: cs => isPlainStart c && cs.all isPlainPart

theorem eq_cons_of_isPlainWord {cs : List Char} (h : isPlainWord cs = true) :
    ∃ d ds, cs = d :: ds ∧ isPlainStart d = true ∧ ∀ c ∈ ds, isPlainPart c = true := by
  cases cs with
  | nil => cases h
  | cons d ds =>
    rw [isPlainWord, Bool.and_eq_true] at h
    exact ⟨d, ds, rfl, h.1, List.all_eq_true.mp h.2⟩

/-- A name of ASCII letters, digits and underscores, which is no keyword. -/
structure IsPlainName (isKeyword : String → Bool) (s : String) : Prop where
  plain : isPlainWord s.toList = true
  noKeyword : isKeyword s = false

instance (isKeyword : String → Bool) : DecidablePred (IsPlainName isKeyword) := fun s =>
  decidable_of_iff (isPlainWord s.toList = true ∧ isKeyword s = false)
    ⟨fun h => ⟨h.1, h.2⟩, fun h => ⟨h.plain, h.noKeyword⟩⟩

/-! ## Operators -/

/-- How tightly an operator binds, as far as conditions have it. Only the order counts. -/
def BinaryOp.strength? : BinaryOp → Option Nat
  | .or => some 5
  | .and => some 10
  | .eq | .notEq | .lt | .ltEq | .gt | .gtEq => some 20
  | .other _ => none

def insideText (negated : Bool) : String :=
  if negated then "NOT IN" else "IN"

/-! ## Expressions -/

/-- How a literal is written. The number is how many levels of nesting it takes. -/
inductive WritesLiteral : Nat → String → Expr → Prop
  | number (n : Nat) : WritesLiteral 1 (toString n) (.value (.number (toString n) false))
  | negative (n : Nat) :
      WritesLiteral 2 ("-" ++ toString n) (.minus (.value (.number (toString n) false)))
  | text {s : String} (hquote : '\'' ∉ s.toList) (hbackslash : '\\' ∉ s.toList) :
      WritesLiteral 1 ("'" ++ s ++ "'") (.value (.text s))

/-- How literals with commas between them are written. -/
inductive WritesItems : Nat → String → List Expr → Prop
  | one {d : Nat} {text : String} {e : Expr} (h : WritesLiteral d text e) : WritesItems d text [e]
  | cons {d d' : Nat} {first rest : String} {e : Expr} {es : List Expr}
      (h : WritesLiteral d first e) (hs : WritesItems d' rest es) :
      WritesItems (max d d') (first ++ ", " ++ rest) (e :: es)

/-- How an expression is written and how many levels of nesting it takes: what stands behind an
operator is one level deeper. All its operators that are not in parentheses bind at least as tightly
as the second number says. -/
inductive Writes (isKeyword : String → Bool) : Nat → Nat → String → Expr → Prop
  | name {t : Nat} {s : String} (h : IsPlainName isKeyword s) :
      Writes isKeyword 1 t s (.name [⟨s, none⟩])
  | qualified {t : Nat} {q s : String} (hq : IsPlainName isKeyword q)
      (h : IsPlainName isKeyword s) :
      Writes isKeyword 1 t (q ++ "." ++ s) (.name [⟨q, none⟩, ⟨s, none⟩])
  | literal {d t : Nat} {text : String} {e : Expr} (h : WritesLiteral d text e) :
      Writes isKeyword d t text e
  | nested {d t : Nat} {text : String} {e : Expr} (h : Writes isKeyword d 1 text e) :
      Writes isKeyword (d + 1) t ("(" ++ text ++ ")") (.nested e)
  | binary {d d' t strength : Nat} {op : BinaryOp} {a b : String} {l r : Expr}
      (hop : op.strength? = some strength) (ht : t ≤ strength)
      (hl : Writes isKeyword d strength a l) (hr : Writes isKeyword d' (strength + 1) b r) :
      Writes isKeyword (max d (d' + 1)) t (a ++ " " ++ op.symbol ++ " " ++ b) (.binary op l r)
  | inList {d d' t : Nat} {negated : Bool} {a b : String} {e : Expr} {items : List Expr}
      (ht : t ≤ 20) (hl : Writes isKeyword d 20 a e) (hitems : WritesItems d' b items) :
      Writes isKeyword (max d (d' + 1)) t (a ++ " " ++ insideText negated ++ " (" ++ b ++ ")")
        (.inList e negated items)

/-- An expression can stand beside operators that bind less tightly. -/
theorem Writes.mono {isKeyword : String → Bool} {d t t' : Nat} {text : String} {e : Expr}
    (h : Writes isKeyword d t text e) (ht : t' ≤ t) : Writes isKeyword d t' text e := by
  cases h with
  | name h => exact .name h
  | qualified hq h => exact .qualified hq h
  | literal h => exact .literal h
  | nested h => exact .nested h
  | binary hop hle hl hr => exact .binary hop (Nat.le_trans ht hle) hl hr
  | inList hle hl hitems => exact .inList (Nat.le_trans ht hle) hl hitems

/-! ## Dialects that read what is written -/

/-- Whether a dialect reads an expression from the text that is written for it when this is nested no
deeper than the limit, and prints a literal as it is written. -/
structure Dialect.ReadsWritten (D : Dialect) (isKeyword : String → Bool) (limit : Nat) : Prop where
  reads : ∀ {d : Nat} {text : String} {e : Expr}, Writes isKeyword d 1 text e → d ≤ limit →
    ∃ ts, D.tokens text = .ok ts ∧ D.expr ts = .ok (e, [])
  prints : ∀ {d : Nat} {text : String} {e : Expr}, WritesLiteral d text e → D.text e = text

end JoinPlan.Sql
