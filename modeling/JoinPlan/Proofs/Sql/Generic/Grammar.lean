import JoinPlan.Proofs.Outcome
import JoinPlan.Proofs.Sql.Generic.Spelling
import JoinPlan.Sql.Generic.Query
import Mathlib.Tactic.SplitIfs

/-!
# Reading of spelled expressions

An expression is read from the tokens that it is written with, whatever follows, as long as no
operator comes next that would take a part of it.
-/

namespace JoinPlan.Sql.Generic

open JoinPlan.Sql.Generic.Parser

/-! ## Steps of a parser -/

namespace Parser

variable {α β : Type} {p : Parser α} {f : α → Parser β} {a : α} {ts rest : List Token}

theorem bind_of_ok (h : p ts = .ok (a, rest)) : (p >>= f) ts = f a rest := by
  change (p ts >>= fun x => f x.1 x.2) = f a rest
  rw [h]
  rfl

theorem next_cons (t : Token) (ts : List Token) : next (t :: ts) = .ok (t, ts) :=
  rfl

/-- A sign that does not come next is not taken. -/
theorem accept_of_head_ne {sign : Symbol} (h : ∀ t ∈ rest.head?, t ≠ .symbol sign) :
    accept sign rest = .ok (false, rest) := by
  cases rest with
  | nil => rfl
  | cons t rest =>
    cases t with
    | symbol other => exact if_neg fun hsign => h (.symbol other) rfl (congrArg Token.symbol hsign)
    | _ => rfl

/-- No item of a list follows. -/
theorem accept_comma_of_rightParen :
    accept .comma (.symbol .rightParen :: rest) = .ok (false, .symbol .rightParen :: rest) :=
  rfl

theorem accept_comma_of_comma :
    accept .comma (.symbol .comma :: rest) = .ok (true, rest) :=
  rfl

theorem commaSeparated_of_one {item : Parser α}
    (h : item ts = .ok (a, .symbol .rightParen :: rest)) :
    commaSeparated item ts = .ok ([a], .symbol .rightParen :: rest) := by
  rw [commaSeparated, separated, bind_of_ok h, bind_of_ok accept_comma_of_rightParen]
  rfl

end Parser

/-! ## What follows an expression -/

/-- No operator that binds more tightly than the strength comes next. -/
def NoTighter (strength : Nat) (rest : List Token) : Prop :=
  ∀ op after, Operator.read? rest = some (op, after) → op.strength ≤ strength

/-- An expression with operators of the strength ends here. -/
structure EndsAt (strength : Nat) (rest : List Token) : Prop where
  noTighter : NoTighter strength rest
  /-- The last name is whole and no call. -/
  noName : ∀ t ∈ rest.head?, t ≠ .symbol .period ∧ t ≠ .symbol .leftParen

theorem Operator.strength_of_ofWord {negated : Bool} {t : Token} {op : Operator}
    (h : ofWord negated t = some op) : op.strength ≤ signStrength := by
  unfold ofWord at h
  split_ifs at h <;> cases h <;> exact Nat.le_of_ble_eq_true rfl

/-- No operator binds more tightly than a sign. -/
theorem noTighter_signStrength (rest : List Token) : NoTighter signStrength rest := by
  intro op after h
  unfold Operator.read? at h
  split at h
  · cases h
  · rename_i s ts
    obtain ⟨⟨b, strength⟩, hb, heq⟩ := Option.map_eq_some_iff.mp h
    cases heq
    show strength ≤ signStrength
    cases s <;> cases hb <;> decide
  · split_ifs at h
    · cases h
      decide
    · cases h
      decide
    · cases h
      decide
    · split at h
      · obtain ⟨found, hfound, heq⟩ := Option.map_eq_some_iff.mp h
        cases heq
        exact Operator.strength_of_ofWord hfound
      · cases h
    · obtain ⟨found, hfound, heq⟩ := Option.map_eq_some_iff.mp h
      cases heq
      exact Operator.strength_of_ofWord hfound

namespace EndsAt

variable {s t : Nat} {rest : List Token}

theorem mono (h : EndsAt s rest) (hle : s ≤ t) : EndsAt t rest :=
  ⟨fun op after hop => Nat.le_trans (h.noTighter op after hop) hle, h.noName⟩

theorem nil : EndsAt s [] :=
  ⟨nofun, nofun⟩

theorem rightParen : EndsAt s (.symbol .rightParen :: rest) :=
  ⟨nofun, by rintro t ⟨⟩; exact ⟨nofun, nofun⟩⟩

theorem comma : EndsAt s (.symbol .comma :: rest) :=
  ⟨nofun, by rintro t ⟨⟩; exact ⟨nofun, nofun⟩⟩

end EndsAt

theorem read_operatorToken {op : BinaryOp} {strength : Nat} (hop : op.strength? = some strength)
    (rest : List Token) :
    Operator.read? (operatorToken op :: rest) = some (.binary op strength, rest) := by
  cases op with
  | or =>
    cases hop
    simp only [operatorToken, Operator.read?]
    rw [if_pos (by decide +kernel)]
  | and =>
    cases hop
    simp only [operatorToken, Operator.read?]
    rw [if_neg (by decide +kernel), if_pos (by decide +kernel)]
  | other => cases hop
  | _ =>
    cases hop
    rfl

theorem read_insideWords (negated : Bool) (rest : List Token) :
    Operator.read? (insideWords negated ++ rest) = some (.inside negated, rest) := by
  cases negated with
  | false =>
    have hword : Operator.ofWord false (.word "IN" none) = some (.inside false) := by decide +kernel
    simp only [insideWords, Bool.false_eq_true, if_false, List.cons_append, List.nil_append,
      Operator.read?]
    rw [if_neg (by decide +kernel), if_neg (by decide +kernel), if_neg (by decide +kernel),
      if_neg (by decide +kernel), hword]
    rfl
  | true =>
    have hword : Operator.ofWord true (.word "IN" none) = some (.inside true) := by decide +kernel
    simp only [insideWords, if_true, List.cons_append, List.nil_append, Operator.read?]
    rw [if_neg (by decide +kernel), if_neg (by decide +kernel), if_neg (by decide +kernel),
      if_pos (by decide +kernel), hword]
    rfl

theorem EndsAt.of_operatorToken {s strength : Nat} {op : BinaryOp} {rest : List Token}
    (hop : op.strength? = some strength) (h : strength ≤ s) :
    EndsAt s (operatorToken op :: rest) := by
  refine ⟨fun read after hread => ?_, ?_⟩
  · rw [read_operatorToken hop] at hread
    cases hread
    exact h
  · rintro t ⟨⟩
    cases op <;> exact ⟨nofun, nofun⟩

theorem EndsAt.of_insideWords {s : Nat} {negated : Bool} {rest : List Token} (h : 20 ≤ s) :
    EndsAt s (insideWords negated ++ rest) := by
  refine ⟨fun read after hread => ?_, ?_⟩
  · rw [read_insideWords] at hread
    cases hread
    exact h
  · cases negated <;> rintro t ⟨⟩ <;> exact ⟨nofun, nofun⟩

namespace Level

variable {inner : Level} {s : Nat} {ts rest : List Token} {e : Expr}

/-! ## Operators behind an operand -/

theorem operators_of_noTighter (h : NoTighter s rest) (n : Nat) :
    operators inner s n e rest = .ok (e, rest) := by
  cases n with
  | zero => rfl
  | succ n =>
    simp only [operators]
    cases hread : Operator.read? rest with
    | none => rfl
    | some found =>
      obtain ⟨op, after⟩ := found
      exact if_neg (Nat.not_lt.mpr (h op after hread))

theorem operators_of_apply {op : Operator} {after : List Token} {n : Nat} {e' : Expr}
    (hread : Operator.read? ts = some (op, after)) (hs : s < op.strength)
    (happly : applyOperator inner op e after = .ok (e', rest)) :
    operators inner s (n + 1) e ts = operators inner s n e' rest := by
  simp only [operators, hread]
  exact (if_pos hs).trans (bind_of_ok happly)

/-- Whether the tokens start with an operand and operators behind it that make up the expression. -/
def Reaches (inner : Level) (s : Nat) (ts : List Token) (e : Expr) (rest : List Token) : Prop :=
  ∃ first mid, operand inner ts = .ok (first, mid) ∧
    ∀ n, mid.length ≤ n →
      ∃ m, rest.length ≤ m ∧ operators inner s n first mid = operators inner s m e rest

namespace Reaches

theorem of_operand (h : operand inner ts = .ok (e, rest)) : Reaches inner s ts e rest :=
  ⟨e, rest, h, fun n hn => ⟨n, hn, rfl⟩⟩

theorem apply {op : Operator} {mid after : List Token} {e' : Expr}
    (h : Reaches inner s ts e mid) (hread : Operator.read? mid = some (op, after))
    (hs : s < op.strength) (happly : applyOperator inner op e after = .ok (e', rest))
    (hshorter : rest.length < mid.length) : Reaches inner s ts e' rest := by
  obtain ⟨first, start, hfirst, hloop⟩ := h
  refine ⟨first, start, hfirst, fun n hn => ?_⟩
  obtain ⟨m, hm, hreached⟩ := hloop n hn
  obtain ⟨m, rfl⟩ : ∃ k, m = k + 1 := ⟨m - 1, by omega⟩
  exact ⟨m, by omega, hreached.trans (operators_of_apply hread hs happly)⟩

theorem subexpr_eq_ok (h : Reaches inner s ts e rest) (hend : NoTighter s rest) :
    subexpr inner s ts = .ok (e, rest) := by
  obtain ⟨first, mid, hfirst, hloop⟩ := h
  obtain ⟨m, -, hreached⟩ := hloop mid.length (Nat.le_refl _)
  rw [subexpr, bind_of_ok hfirst, hreached, operators_of_noTighter hend]

end Reaches

/-- An expression is read on every level that has enough levels below it. -/
theorem expr_ofDepth_of_reaches {d k : Nat} (hpos : 0 < d) (hd : d ≤ k)
    (h : ∀ j, d ≤ j + 1 → Reaches (ofDepth j) s ts e rest) (hend : NoTighter s rest) :
    (ofDepth k).expr s ts = .ok (e, rest) := by
  obtain ⟨j, rfl⟩ : ∃ j, k = j + 1 := ⟨k - 1, by omega⟩
  exact (h j hd).subexpr_eq_ok hend

/-! ## Names -/

theorem qualifiedParts_of_noName (h : ∀ t ∈ rest.head?, t ≠ .symbol .period) (n : Nat) :
    qualifiedParts n rest = .ok ([], rest) := by
  cases n with
  | zero => rfl
  | succ n =>
    rw [qualifiedParts, bind_of_ok (accept_of_head_ne h)]
    rfl

theorem qualifiedParts_of_period {name : String} (h : ∀ t ∈ rest.head?, t ≠ .symbol .period)
    (n : Nat) : qualifiedParts (n + 1) (.symbol .period :: .word name none :: rest) =
      .ok ([⟨name, none⟩], rest) := by
  have hperiod : accept .period (.symbol .period :: .word name none :: rest) =
    .ok (true, .word name none :: rest) := rfl
  have hname : ident (.word name none :: rest) = .ok (⟨name, none⟩, rest) := rfl
  rw [qualifiedParts, bind_of_ok hperiod, if_pos rfl, bind_of_ok hname,
    bind_of_ok (qualifiedParts_of_noName h n)]
  rfl

theorem nameOrCall_of_noName {i : Ident} {parts : List Ident}
    (hparts : qualifiedFrom i ts = .ok (parts, rest))
    (h : ∀ t ∈ rest.head?, t ≠ .symbol .leftParen) :
    nameOrCall inner i ts = .ok (.name parts, rest) := by
  rw [nameOrCall, bind_of_ok hparts, bind_of_ok (accept_of_head_ne h)]
  rfl

end Level

/-! ## Keywords -/

/-- A token that is no keyword of an expression. -/
def IsNoWord (t : Token) : Prop :=
  ∀ k ∈ expressionWords, t.isKeyword k = false

theorem isNoWord_of_isName {s : String} (h : IsName s) : IsNoWord (.word s none) :=
  fun _ hk => beq_eq_false_iff_ne.mpr fun heq => of_decide_eq_false h.noKeyword (heq ▸ hk)

theorem IsNoWord.isOneOf_eq_false {t : Token} {ks : List String} (h : IsNoWord t)
    (hks : ∀ k ∈ ks, k ∈ expressionWords) : t.isOneOf ks = false :=
  List.any_eq_false.mpr fun k hk => by simp [h k (hks k hk)]

theorem SpellsLiteral.isNoWord {d : Nat} {ts : List Token} {e : Expr} (h : SpellsLiteral d ts e) :
    ∃ u us, ts = u :: us ∧ IsNoWord u := by
  cases h <;> exact ⟨_, _, rfl, fun _ _ => rfl⟩

/-- No keyword stands at the front of an expression. -/
theorem Spells.isNoWord {d t : Nat} {ts : List Token} {e : Expr} (h : Spells d t ts e) :
    ∃ u us, ts = u :: us ∧ IsNoWord u := by
  induction h with
  | name h | qualified h => exact ⟨_, _, rfl, isNoWord_of_isName h⟩
  | literal h => exact h.isNoWord
  | nested => exact ⟨_, _, rfl, fun _ _ => rfl⟩
  | binary _ _ _ _ ihl =>
    obtain ⟨u, us, rfl, hu⟩ := ihl
    exact ⟨u, _, rfl, hu⟩
  | inList _ _ _ ihl =>
    obtain ⟨u, us, rfl, hu⟩ := ihl
    exact ⟨u, _, rfl, hu⟩

theorem SpellsItems.isNoWord {d : Nat} {ts : List Token} {es : List Expr} (h : SpellsItems d ts es) :
    ∃ u us, ts = u :: us ∧ IsNoWord u := by
  cases h with
  | one h => exact h.isNoWord
  | cons h =>
    obtain ⟨u, us, rfl, hu⟩ := h.isNoWord
    exact ⟨u, _, rfl, hu⟩

/-- No query comes next. -/
def NoQuery (ts : List Token) : Prop :=
  Level.atQuery ts = .ok (false, ts)

theorem IsNoWord.noQuery {t : Token} (h : IsNoWord t) (ts : List Token) : NoQuery (t :: ts) := by
  rw [NoQuery, Level.atQuery, atWord, h.isOneOf_eq_false (by simp [expressionWords])]

theorem Spells.noQuery {d t : Nat} {ts : List Token} {e : Expr} (h : Spells d t ts e)
    (rest : List Token) : NoQuery (ts ++ rest) := by
  obtain ⟨u, us, rfl, hu⟩ := h.isNoWord
  exact hu.noQuery _

theorem SpellsItems.noQuery {d : Nat} {ts : List Token} {es : List Expr} (h : SpellsItems d ts es)
    (rest : List Token) : NoQuery (ts ++ rest) := by
  obtain ⟨u, us, rfl, hu⟩ := h.isNoWord
  exact hu.noQuery _

/-- What stands behind an operator is no comparison with ANY or ALL. -/
theorem Spells.noQuantified {d t : Nat} {ts : List Token} {e : Expr} (h : Spells d t ts e)
    (rest : List Token) : acceptOneOf ["ANY", "ALL"] (ts ++ rest) = .ok (none, ts ++ rest) := by
  obtain ⟨u, us, rfl, hu⟩ := h.isNoWord
  have hany : u.isKeyword "ANY" = false := hu _ (by simp [expressionWords])
  have hall : u.isKeyword "ALL" = false := hu _ (by simp [expressionWords])
  simp [acceptOneOf, hany, hall]

namespace Level

variable {inner : Level} {t : Nat} {rest : List Token}

theorem wordOperand_of_isName {s : String} (h : IsName s) :
    wordOperand inner s none = nameOrCall inner ⟨s, none⟩ := by
  have hnone := isNoWord_of_isName h
  have hword {k : String} (hk : k ∈ expressionWords) : ¬ (Token.word s none).isKeyword k = true :=
    Bool.eq_false_iff.mp (hnone k hk)
  have hwords {ks : List String} (hks : ∀ k ∈ ks, k ∈ expressionWords) :
      ¬ (Token.word s none).isOneOf ks = true :=
    Bool.eq_false_iff.mp (hnone.isOneOf_eq_false hks)
  rw [wordOperand, if_neg (hword (by simp [expressionWords])),
    if_neg (hword (by simp [expressionWords])), if_neg (hword (by simp [expressionWords])),
    if_neg (hword (by simp [expressionWords])), if_neg (hword (by simp [expressionWords])),
    if_neg (hwords (by simp +contextual [expressionWords])),
    if_neg (hwords (by simp +contextual [expressionWords])),
    if_neg (hword (by simp [expressionWords])),
    if_neg (hwords (by simp +contextual [expressionWords]))]

theorem operand_name {s : String} (h : IsName s) (hend : EndsAt t rest) :
    operand inner (.word s none :: rest) = .ok (.name [⟨s, none⟩], rest) := by
  have hparts : qualifiedFrom ⟨s, none⟩ rest = .ok ([⟨s, none⟩], rest) := by
    rw [qualifiedFrom, bind_of_ok (qualifiedParts_of_noName (fun t ht => (hend.noName t ht).1) _)]
    rfl
  rw [operand, bind_of_ok (next_cons _ _)]
  dsimp only
  rw [wordOperand_of_isName h,
    nameOrCall_of_noName hparts fun t ht => (hend.noName t ht).2]

theorem operand_qualified {q s : String} (hq : IsName q) (hend : EndsAt t rest) :
    operand inner (.word q none :: .symbol .period :: .word s none :: rest) =
      .ok (.name [⟨q, none⟩, ⟨s, none⟩], rest) := by
  have hparts : qualifiedFrom ⟨q, none⟩ (.symbol .period :: .word s none :: rest) =
      .ok ([⟨q, none⟩, ⟨s, none⟩], rest) := by
    have hname : qualifiedParts (Token.symbol .period :: .word s none :: rest).length
        (.symbol .period :: .word s none :: rest) = .ok ([⟨s, none⟩], rest) :=
      qualifiedParts_of_period (fun t ht => (hend.noName t ht).1) _
    rw [qualifiedFrom, bind_of_ok hname]
    rfl
  rw [operand, bind_of_ok (next_cons _ _)]
  dsimp only
  rw [wordOperand_of_isName hq,
    nameOrCall_of_noName hparts fun t ht => (hend.noName t ht).2]

end Level

/-! ## Literals -/

namespace SpellsLiteral

open Level

variable {d k : Nat} {ts rest : List Token} {e : Expr}

theorem operand_eq_ok (h : SpellsLiteral d ts e) (hd : d ≤ k + 1) :
    (ofDepth k).operand (ts ++ rest) = .ok (e, rest) := by
  cases h with
  | number | text => rfl
  | negative n =>
    obtain ⟨j, rfl⟩ : ∃ j, k = j + 1 := ⟨k - 1, by omega⟩
    have hnumber : (ofDepth (j + 1)).expr signStrength (.number (toString n) false :: rest) =
        .ok (.value (.number (toString n) false), rest) :=
      (Reaches.of_operand rfl).subexpr_eq_ok (noTighter_signStrength rest)
    rw [List.cons_append, List.cons_append, List.nil_append, operand, bind_of_ok (next_cons _ _)]
    exact bind_of_ok hnumber

theorem expr_eq_ok (h : SpellsLiteral d ts e) (hd : d ≤ k) (hend : NoTighter 0 rest) :
    (ofDepth k).expr 0 (ts ++ rest) = .ok (e, rest) :=
  expr_ofDepth_of_reaches h.depth_pos hd (fun _ hj => .of_operand (h.operand_eq_ok hj)) hend

end SpellsLiteral

/-! ## Parentheses -/

namespace SpellsItems

open Level

variable {d k : Nat} {ts : List Token} {es : List Expr}

theorem separated_eq_ok (h : SpellsItems d ts es) (hd : d ≤ k) {n : Nat} (hn : ts.length < n)
    (rest : List Token) :
    separated ((ofDepth k).expr 0) n (ts ++ .symbol .rightParen :: rest) =
      .ok (es, .symbol .rightParen :: rest) := by
  induction h generalizing n with
  | @one d ts e h =>
    obtain ⟨n, rfl⟩ : ∃ k, n = k + 1 := ⟨n - 1, by omega⟩
    rw [separated, bind_of_ok (h.expr_eq_ok hd EndsAt.rightParen.noTighter),
      bind_of_ok accept_comma_of_rightParen]
    rfl
  | @cons d d' ts us e es h hs ih =>
    obtain ⟨n, rfl⟩ : ∃ k, n = k + 1 := ⟨n - 1, by omega⟩
    have hrest : us.length < n := by
      rw [List.length_append, List.length_cons] at hn
      omega
    rw [List.append_assoc, List.cons_append, separated,
      bind_of_ok (h.expr_eq_ok (by omega) EndsAt.comma.noTighter), bind_of_ok accept_comma_of_comma,
      if_pos rfl, bind_of_ok (ih (by omega) hrest)]
    rfl

theorem commaSeparated_eq_ok (h : SpellsItems d ts es) (hd : d ≤ k) (rest : List Token) :
    commaSeparated ((ofDepth k).expr 0) (ts ++ .symbol .rightParen :: rest) =
      .ok (es, .symbol .rightParen :: rest) :=
  h.separated_eq_ok hd (by rw [List.length_append]; omega) rest

end SpellsItems

namespace Level

variable {inner : Level} {ts rest : List Token} {e : Expr}

theorem expect_rightParen :
    expect .rightParen (.symbol .rightParen :: rest) = .ok ((), rest) :=
  rfl

theorem operand_nested (hquery : NoQuery ts)
    (h : inner.expr 0 ts = .ok (e, .symbol .rightParen :: rest)) :
    operand inner (.symbol .leftParen :: ts) = .ok (.nested e, rest) := by
  rw [operand, bind_of_ok (next_cons _ _)]
  dsimp only
  rw [parenOperand, bind_of_ok hquery, if_neg Bool.false_ne_true,
    bind_of_ok (commaSeparated_of_one h), bind_of_ok expect_rightParen]
  rfl

theorem binaryOperand_of_expr {op : BinaryOp} {strength : Nat} {l r : Expr}
    (hquantified : acceptOneOf ["ANY", "ALL"] ts = .ok (none, ts))
    (h : inner.expr strength ts = .ok (r, rest)) :
    binaryOperand inner op strength l ts = .ok (.binary op l r, rest) := by
  rw [binaryOperand, bind_of_ok hquantified]
  exact bind_of_ok h

theorem inOperand_of_items {items : List Expr} {negated : Bool} (hquery : NoQuery ts)
    (h : commaSeparated (inner.expr 0) ts = .ok (items, .symbol .rightParen :: rest)) :
    inOperand inner e negated (.symbol .leftParen :: ts) = .ok (.inList e negated items, rest) := by
  have hopen : expect .leftParen (.symbol .leftParen :: ts) = .ok ((), ts) := rfl
  rw [inOperand, bind_of_ok hopen, bind_of_ok hquery, if_neg Bool.false_ne_true, bind_of_ok h,
    bind_of_ok expect_rightParen]
  rfl

end Level

/-! ## Expressions -/

namespace Spells

open Level

variable {d k t s : Nat} {ts rest : List Token} {e : Expr}

/-- The operators outside parentheses are applied one after the other, and what each of them takes on
its right ends where the next one stands. -/
theorem reaches (h : Spells d t ts e) (hd : d ≤ k + 1) (hs : s < t) (hend : EndsAt t rest) :
    Reaches (ofDepth k) s (ts ++ rest) e rest := by
  induction h generalizing k s rest with
  | name h => exact .of_operand (operand_name h hend)
  | qualified hq => exact .of_operand (operand_qualified hq hend)
  | literal h => exact .of_operand (h.operand_eq_ok hd)
  | @nested d t ts e h ih =>
    have hclose {s : Nat} : EndsAt s (.symbol .rightParen :: rest) := .rightParen
    have hinner := expr_ofDepth_of_reaches (k := k) h.depth_pos (by omega)
      (fun _ hj => ih hj Nat.zero_lt_one hclose) hclose.noTighter
    rw [List.cons_append, List.append_assoc]
    exact .of_operand (operand_nested (h.noQuery _) hinner)
  | @binary d d' t strength op ls rs l r hop ht hl hr ihl ihr =>
    have hs : s < strength := Nat.lt_of_lt_of_le hs ht
    have hmiddle : EndsAt strength (operatorToken op :: (rs ++ rest)) :=
      .of_operatorToken hop (Nat.le_refl _)
    have hright := expr_ofDepth_of_reaches (k := k) hr.depth_pos (by omega)
      (fun _ hj => ihr hj (Nat.lt_succ_self _) (hend.mono (by omega))) (hend.mono ht).noTighter
    rw [List.append_assoc, List.cons_append]
    exact (ihl (by omega) hs hmiddle).apply (read_operatorToken hop _) hs
      (binaryOperand_of_expr (hr.noQuantified rest) hright)
      (by simp only [List.length_cons, List.length_append]; omega)
  | @inList d d' t negated ls us e items ht hl hitems ihl =>
    have hop : s < 20 := Nat.lt_of_lt_of_le hs ht
    have hmiddle : EndsAt 20 (insideWords negated ++
        .symbol .leftParen :: (us ++ .symbol .rightParen :: rest)) :=
      .of_insideWords (Nat.le_refl _)
    have hlist : inOperand (ofDepth k) e negated
        (.symbol .leftParen :: (us ++ .symbol .rightParen :: rest)) =
          .ok (.inList e negated items, rest) :=
      inOperand_of_items (hitems.noQuery _) (hitems.commaSeparated_eq_ok (by omega) rest)
    simp only [List.append_assoc, List.cons_append, List.nil_append]
    exact (ihl (by omega) hop hmiddle).apply (read_insideWords negated _) hop hlist
      (by simp only [List.length_cons, List.length_append]; omega)

theorem expr_eq_ok (h : Spells d t ts e) (hd : d ≤ k) (hs : s < t) (hend : EndsAt s rest) :
    (ofDepth k).expr s (ts ++ rest) = .ok (e, rest) :=
  expr_ofDepth_of_reaches h.depth_pos hd
    (fun _ hj => h.reaches hj hs (hend.mono (Nat.le_of_lt hs))) hend.noTighter

end Spells

/-! ## The dialect -/

/-- The generic dialect reads what is written when it is nested no deeper than its limit. -/
theorem readsWritten_generic : Dialect.generic.ReadsWritten isExpressionWord depthLimit where
  reads {d text e} h hd := by
    obtain ⟨ts, hspells, hsplits⟩ := exists_spells h
    have hexpr := hspells.expr_eq_ok hd Nat.zero_lt_one EndsAt.nil
    rw [List.append_nil] at hexpr
    exact ⟨ts, Outcome.mapError_eq_ok.mpr (hsplits.lex_eq_ok nofun),
      Outcome.mapError_eq_ok.mpr hexpr⟩
  prints := exprText_of_writesLiteral

end JoinPlan.Sql.Generic
