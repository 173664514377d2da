import JoinPlan.Predicate.Printer
import JoinPlan.Proofs.Outcome
import JoinPlan.Statement.Reader.Query

/-!
# Reading a condition at the front of a text

A text is read as a condition when a condition stands at its front. What stands behind the condition
has to consist of tokens and is not looked at, so that texts with one condition at the front are read
alike.
-/

namespace JoinPlan

/-! ## Expressions at the front of tokens -/

namespace Sql.Dialect

variable {D : Dialect} {ts used rest : List D.Token} {t : D.Token} {e : Expr}

/-- Whether tokens are an expression as a whole. -/
def IsExpr (D : Dialect) (ts : List D.Token) (e : Expr) : Prop :=
  D.expr ts = .ok (e, [])

/-- Whether some expression goes on with the token behind the other tokens. -/
def GoesOn (D : Dialect) (ts : List D.Token) (t : D.Token) : Prop :=
  ∃ more e, D.IsExpr (ts ++ t :: more) e

/-- Whether the tokens that are used make no expression with any of those behind them. -/
def IsLongest (D : Dialect) (used rest : List D.Token) : Prop :=
  ∀ more after, rest = more ++ after → ∀ e, D.IsExpr (used ++ more) e → more = []

/-- Whether a dialect reads the longest expression at the front of the tokens and leaves the others
unread. -/
structure TakesLongest (D : Dialect) : Prop where
  /-- What is read is an expression by itself and no longer front of the tokens is one. -/
  front : ∀ {ts e rest}, D.expr ts = .ok (e, rest) →
    ∃ used, ts = used ++ rest ∧ D.IsExpr used e ∧ D.IsLongest used rest
  /-- An expression is read when none goes on with the token behind it. -/
  stops : ∀ {used e t}, D.IsExpr used e → ¬ D.GoesOn used t →
    ∀ rest, D.expr (used ++ t :: rest) = .ok (e, t :: rest)

/-- The expression at the front of tokens is read when none goes on behind it. -/
theorem TakesLongest.expr_eq_ok (hD : D.TakesLongest) (he : D.IsExpr used e)
    (hrest : ∀ t ∈ rest.head?, ¬ D.GoesOn used t) : D.expr (used ++ rest) = .ok (e, rest) := by
  cases rest with
  | nil => rwa [List.append_nil]
  | cons t rest => exact hD.stops he (hrest t rfl) rest

end Sql.Dialect

/-! ## Conditions -/

namespace Predicate

variable {D : Sql.Dialect} {text : String} {p : Predicate}

theorem readIn_eq_ok_iff :
    readIn D text = .ok p ↔ ∃ ts e rest, D.tokens text = .ok ts ∧ D.expr ts = .ok (e, rest) ∧
      Reader.predicate D [] e = .ok p := by
  unfold readIn
  cases hread : D.tokens text >>= D.expr with
  | error reason =>
    refine iff_of_false nofun fun ⟨ts, e, rest, htokens, hexpr, _⟩ => ?_
    rw [Outcome.bind_eq_ok.mpr ⟨ts, htokens, hexpr⟩] at hread
    cases hread
  | ok found =>
    obtain ⟨ts, htokens, hexpr⟩ := Outcome.bind_eq_ok.mp hread
    constructor
    · exact fun hp => ⟨ts, found.1, found.2, htokens, hexpr, hp⟩
    · rintro ⟨_, e, rest, htokens', hexpr', hp⟩
      cases htokens.symm.trans htokens'
      cases hexpr.symm.trans hexpr'
      exact hp

/-- When a text is read, a whole condition stands at its front, and no longer front of the text is an
expression. So what is read is the whole text only when nothing follows the condition. And every text
is read that has a condition at its front and goes on with a token that no expression has there,
whatever it says behind that. -/
theorem read_front (hD : D.TakesLongest) (text : String) :
    (∀ p, readIn D text = .ok p → ∃ e used rest, D.tokens text = .ok (used ++ rest) ∧
      D.IsExpr used e ∧ Reader.predicate D [] e = .ok p ∧ D.IsLongest used rest ∧
      ((∃ e', D.IsExpr (used ++ rest) e') ↔ rest = [])) ∧
    ∀ p e used rest, D.tokens text = .ok (used ++ rest) → D.IsExpr used e →
      Reader.predicate D [] e = .ok p → (∀ t ∈ rest.head?, ¬ D.GoesOn used t) →
      readIn D text = .ok p ∧ JoinCondition.readIn D text = .ok ⟨text, p⟩ := by
  constructor
  · intro p hread
    obtain ⟨ts, e, rest, htokens, hexpr, hp⟩ := readIn_eq_ok_iff.mp hread
    obtain ⟨used, rfl, he, hlongest⟩ := hD.front hexpr
    refine ⟨e, used, rest, htokens, he, hp, hlongest, ?_, ?_⟩
    · rintro ⟨e', he'⟩
      exact hlongest rest [] (List.append_nil rest).symm e' he'
    · rintro rfl
      exact ⟨e, by rwa [List.append_nil]⟩
  · intro p e used rest htokens he hp hrest
    have hread : readIn D text = .ok p :=
      readIn_eq_ok_iff.mpr ⟨_, e, rest, htokens, hD.expr_eq_ok he hrest, hp⟩
    exact ⟨hread, by rw [JoinCondition.readIn, hread]; rfl⟩

/-! ### A condition without its AND -/

/-- The dialect of equalities between two names, with a blank between each two words. -/
def wordDialect : Sql.Dialect where
  Token := String
  tokens text := .ok ((text.toList.splitOn ' ').map String.ofList)
  expr
    | a :: "=" :: b :: rest => .ok (.binary .eq (.name [⟨a, none⟩]) (.name [⟨b, none⟩]), rest)
    | _ => .error "no equality"
  statements _ := .error "no statement"
  text := Sql.Generic.exprText
  identText := Sql.Generic.identText

theorem takesLongest_wordDialect : wordDialect.TakesLongest := by
  have hexpr {ts rest : List String} {e : Sql.Expr} (h : wordDialect.expr ts = .ok (e, rest)) :
      ∃ a b, ts = a :: "=" :: b :: rest ∧
        e = .binary .eq (.name [⟨a, none⟩]) (.name [⟨b, none⟩]) := by
    dsimp only [wordDialect] at h
    split at h
    · cases h
      exact ⟨_, _, rfl, rfl⟩
    · cases h
  constructor
  · intro ts e rest h
    obtain ⟨a, b, rfl, rfl⟩ := hexpr h
    refine ⟨[a, "=", b], rfl, rfl, fun more after hrest e' he' => ?_⟩
    obtain ⟨a', b', heq, -⟩ := hexpr he'
    exact (List.cons.inj (List.cons.inj (List.cons.inj heq).2).2).2
  · intro used e t he hstop rest
    obtain ⟨a, b, rfl, rfl⟩ := hexpr he
    rfl

/-- Two conditions with no AND between them. -/
def unjoinedNames : String :=
  "id = order_id amount > 1"

/-- What is behind the first condition vanishes. -/
theorem read_front_unjoinedNames :
    ∃ p, readIn wordDialect unjoinedNames = .ok p ∧ p.text = "id = order_id" ∧
      JoinCondition.readIn wordDialect unjoinedNames = .ok ⟨unjoinedNames, p⟩ ∧
      ∃ e used rest, wordDialect.tokens unjoinedNames = .ok (used ++ rest) ∧
        wordDialect.IsExpr used e ∧ Reader.predicate wordDialect [] e = .ok p ∧
        ((∃ e', wordDialect.IsExpr (used ++ rest) e') ↔ rest = []) := by
  obtain ⟨hfront, hread⟩ := read_front takesLongest_wordDialect unjoinedNames
  have htokens : wordDialect.tokens unjoinedNames =
      .ok (["id", "=", "order_id"] ++ ["amount", ">", "1"]) :=
    congrArg Except.ok (by decide +kernel)
  have hstops : ¬ wordDialect.GoesOn ["id", "=", "order_id"] "amount" := by
    rintro ⟨more, e, he⟩
    cases he
  obtain ⟨hp, hcondition⟩ := hread (.compare (.column (.bare "id")) .eq (.column (.bare "order_id")))
    _ _ _ htokens rfl rfl (by rintro t ⟨⟩; exact hstops)
  obtain ⟨e, used, rest, hfound, he, hpredicate, -, hwhole⟩ := hfront _ hp
  exact ⟨_, hp, by decide +kernel, hcondition, e, used, rest, hfound, he, hpredicate, hwhole⟩

end Predicate

/-- The condition of a join and another one behind it, with no AND between them. -/
def unjoined : String :=
  "orders.id = p.order_id p.amount > 1"

/-- A text that is no condition as a whole is read as the condition at its front. -/
theorem JoinCondition.read_unjoined :
    ∃ p ts, read unjoined = .ok ⟨unjoined, p⟩ ∧ p.text = "orders.id = p.order_id" ∧
      Sql.Dialect.generic.tokens unjoined = .ok ts ∧ ∀ e, ¬ Sql.Dialect.generic.IsExpr ts e := by
  obtain ⟨p, hread, htext⟩ : ∃ p, Predicate.read unjoined = .ok p ∧
      p.text = "orders.id = p.order_id" :=
    Outcome.toOption_map_eq_some.mp (by decide +kernel)
  obtain ⟨ts, htokens, hrest⟩ := Option.bind_eq_some_iff.mp
    (show (Sql.Dialect.generic.tokens unjoined).toOption.bind (fun ts =>
        (Sql.Dialect.generic.expr ts).toOption.map fun found => found.2.length) = some 5 by
      decide +kernel)
  obtain ⟨found, hexpr, hlength⟩ := Outcome.toOption_map_eq_some.mp hrest
  have hcondition : read unjoined = .ok ⟨unjoined, p⟩ := by
    rw [read, readIn, show Predicate.readIn .generic unjoined = .ok p from hread]
    rfl
  -- Five tokens are left, but none would be if all of them were the expression.
  refine ⟨p, ts, hcondition, htext, Outcome.toOption_eq_some.mp htokens, fun e he => ?_⟩
  cases hexpr.symm.trans he
  cases hlength

end JoinPlan
