import JoinPlan.Proofs.Sql.Generic.Lexer
import JoinPlan.Sql.Generic.Expr

/-!
# Spelling of expressions

The tokens of written expressions. The text that is written for an expression is split into tokens
that spell it.
-/

namespace JoinPlan.Sql.Generic

/-! ## Names -/

/-- Words that stand for something else than a name in an expression. -/
def expressionWords : List String :=
  ["TRUE", "FALSE", "NULL", "NOT", "EXISTS", "ARRAY", "SELECT", "WITH", "OR", "AND", "IS", "IN",
    "BETWEEN", "LIKE", "ANY", "ALL"] ++
    Level.bareFunctions ++ Level.timeFunctions ++ Level.otherForms

def isExpressionWord (s : String) : Bool :=
  decide (keywordText s ∈ expressionWords)

/-- A name that can stand in an expression as it is. -/
abbrev IsName : String → Prop :=
  IsPlainName isExpressionWord

/-! ## Spellings -/

/-- The tokens of a literal. The number is how many levels of the grammar it takes. -/
inductive SpellsLiteral : Nat → List Token → Expr → Prop
  | number (n : Nat) :
      SpellsLiteral 1 [.number (toString n) false] (.value (.number (toString n) false))
  | negative (n : Nat) :
      SpellsLiteral 2 [.symbol .minus, .number (toString n) false]
        (.minus (.value (.number (toString n) false)))
  | text (s : String) : SpellsLiteral 1 [.text s] (.value (.text s))

/-- The tokens of literals with commas between them. -/
inductive SpellsItems : Nat → List Token → List Expr → Prop
  | one {d : Nat} {ts : List Token} {e : Expr} (h : SpellsLiteral d ts e) : SpellsItems d ts [e]
  | cons {d d' : Nat} {ts us : List Token} {e : Expr} {es : List Expr} (h : SpellsLiteral d ts e)
      (hs : SpellsItems d' us es) :
      SpellsItems (max d d') (ts ++ .symbol .comma :: us) (e :: es)

def insideWords (negated : Bool) : List Token :=
  if negated then [.word "NOT" none, .word "IN" none] else [.word "IN" none]

/-- The tokens of an expression and how many levels of the grammar it takes. All its operators that
are not in parentheses bind at least as tightly as the second number says. -/
inductive Spells : Nat → Nat → List Token → Expr → Prop
  | name {t : Nat} {s : String} (h : IsName s) : Spells 1 t [.word s none] (.name [⟨s, none⟩])
  | qualified {t : Nat} {q s : String} (hq : IsName q) (h : IsName s) :
      Spells 1 t [.word q none, .symbol .period, .word s none] (.name [⟨q, none⟩, ⟨s, none⟩])
  | literal {d t : Nat} {ts : List Token} {e : Expr} (h : SpellsLiteral d ts e) : Spells d t ts e
  | nested {d t : Nat} {ts : List Token} {e : Expr} (h : Spells d 1 ts e) :
      Spells (d + 1) t (.symbol .leftParen :: (ts ++ [.symbol .rightParen])) (.nested e)
  | binary {d d' t strength : Nat} {op : BinaryOp} {ls rs : List Token} {l r : Expr}
      (hop : op.strength? = some strength) (ht : t ≤ strength) (hl : Spells d strength ls l)
      (hr : Spells d' (strength + 1) rs r) :
      Spells (max d (d' + 1)) t (ls ++ operatorToken op :: rs) (.binary op l r)
  | inList {d d' t : Nat} {negated : Bool} {ls us : List Token} {e : Expr} {items : List Expr}
      (ht : t ≤ 20) (hl : Spells d 20 ls e) (hitems : SpellsItems d' us items) :
      Spells (max d (d' + 1)) t
        (ls ++ insideWords negated ++ .symbol .leftParen :: (us ++ [.symbol .rightParen]))
        (.inList e negated items)

theorem SpellsLiteral.depth_pos {d : Nat} {ts : List Token} {e : Expr} (h : SpellsLiteral d ts e) :
    0 < d := by
  cases h <;> exact Nat.succ_pos _

theorem Spells.depth_pos {d t : Nat} {ts : List Token} {e : Expr} (h : Spells d t ts e) :
    0 < d := by
  induction h with
  | literal h => exact h.depth_pos
  | name | qualified | nested => exact Nat.succ_pos _
  | binary _ _ _ _ ihl => exact Nat.lt_of_lt_of_le ihl (Nat.le_max_left _ _)
  | inList _ _ _ ihl => exact Nat.lt_of_lt_of_le ihl (Nat.le_max_left _ _)

/-! ## Texts -/

theorem splits_name {s : String} (h : IsName s) : Splits Separated s.toList [.word s none] :=
  (splits_word h.plain).mono fun _ => EndsWord.of_separated

theorem Splits.spaced {follows later : List Char → Prop} {cs ds : List Char} {ts us : List Token}
    (h : Splits follows cs ts) (hblank : ∀ rest, follows (' ' :: rest)) (h' : Splits later ds us) :
    Splits later (cs ++ ' ' :: ds) (ts ++ us) :=
  h.append (splits_blank.append h' fun _ _ => trivial) fun _ _ => hblank _

theorem separated_blank (rest : List Char) : Separated (' ' :: rest) :=
  Blank.separated ⟨rest, rfl⟩

theorem splits_digits (n : Nat) :
    Splits Separated (toString n).toList [.number (toString n) false] := by
  obtain ⟨d, ds, hds, hdigits⟩ := Decimal.toList_toString n
  have hnumber := splits_number hdigits
  rwa [← hds, String.ofList_toList] at hnumber

/-- A text without quotes stands between them as it is. -/
theorem doubleQuotes_of_not_mem {quote : Char} {cs : List Char} (h : quote ∉ cs) (before : Char) :
    doubleQuotes quote before cs = cs := by
  induction cs generalizing before with
  | nil => rfl
  | cons c cs ih =>
    have hc : c ≠ quote := (List.ne_of_not_mem_cons h).symm
    have hcs := ih (List.not_mem_of_not_mem_cons h)
    cases cs with
    | nil => simp [doubleQuotes, hc]
    | cons d cs => rw [doubleQuotes, if_neg hc, hcs]

theorem toList_quotedText {s : String} (h : '\'' ∉ s.toList) :
    (quotedText '\'' s).toList = '\'' :: (s.toList ++ ['\'']) := by
  rw [quotedText, doubleQuotes_of_not_mem h, String.toList_ofList, List.cons_append]

/-- A literal is printed as it is written. -/
theorem exprText_of_writesLiteral {d : Nat} {text : String} {e : Expr}
    (h : WritesLiteral d text e) : exprText e = text := by
  cases h with
  | number n => simp [exprText, valueText]
  | negative n => simp [exprText, valueText]
  | text hquote =>
    refine String.ext ?_
    rw [exprText, valueText, toList_quotedText hquote]
    simp

theorem exists_spellsLiteral {d : Nat} {text : String} {e : Expr} (h : WritesLiteral d text e) :
    ∃ ts, SpellsLiteral d ts e ∧ Splits Separated text.toList ts := by
  cases h with
  | number n => exact ⟨_, .number n, splits_digits n⟩
  | negative n =>
    have htext : ("-" ++ toString n).toList = '-' :: (toString n).toList := by simp
    obtain ⟨c, cs, hcs, hdigits⟩ := Decimal.toList_toString n
    have hnumber := splits_digits n
    rw [hcs] at htext hnumber
    refine ⟨_, .negative n, ?_⟩
    rw [htext]
    exact splits_minus.append hnumber fun rest _ =>
      ⟨c, cs ++ rest, rfl, hdigits c List.mem_cons_self⟩
  | @text s hquote =>
    have htext : ("'" ++ s ++ "'").toList = '\'' :: (s.toList ++ ['\'']) := by simp
    have hsplits := splits_text hquote
    rw [String.ofList_toList, ← htext] at hsplits
    exact ⟨_, .text s, hsplits⟩

theorem exists_spellsItems {d : Nat} {text : String} {es : List Expr} (h : WritesItems d text es) :
    ∃ ts, SpellsItems d ts es ∧ Splits Separated text.toList ts := by
  induction h with
  | one h =>
    obtain ⟨ts, hspells, hsplits⟩ := exists_spellsLiteral h
    exact ⟨ts, .one hspells, hsplits⟩
  | @cons d d' first rest e es h hs ih =>
    obtain ⟨ts, hspells, hsplits⟩ := exists_spellsLiteral h
    obtain ⟨us, hrest, hsplits'⟩ := ih
    have htext : (first ++ ", " ++ rest).toList = first.toList ++ ',' :: ' ' :: rest.toList := by
      simp
    refine ⟨_, .cons hspells hrest, ?_⟩
    rw [htext]
    refine hsplits.append (splits_comma.append (splits_blank.append hsplits' fun _ _ => trivial)
      fun _ _ => trivial) fun rest _ => ?_
    rintro c ⟨⟩
    exact Or.inr (Or.inr rfl)

theorem separated_rightParen (rest : List Char) : Separated (')' :: rest) := by
  rintro c ⟨⟩
  exact Or.inr (Or.inl rfl)

theorem splits_rightParen_separated : Splits Separated [')'] [.symbol .rightParen] :=
  splits_rightParen.mono fun _ _ => trivial

theorem splits_inParens {cs : List Char} {ts : List Token} (h : Splits Separated cs ts) :
    Splits Separated ('(' :: (cs ++ [')'])) (.symbol .leftParen :: (ts ++ [.symbol .rightParen])) :=
  splits_leftParen.append (h.append splits_rightParen_separated fun rest _ =>
    separated_rightParen rest) fun _ _ => trivial

theorem splits_insideText (negated : Bool) :
    Splits Blank (insideText negated).toList (insideWords negated) := by
  have hin : Splits Blank "IN".toList [.word "IN" none] :=
    (splits_word rfl).mono fun _ h => .of_separated h.separated
  have hnot : Splits EndsWord "NOT".toList [.word "NOT" none] := splits_word rfl
  cases negated with
  | false => exact hin
  | true => exact hnot.spaced (fun rest => .of_separated (separated_blank rest)) hin

/-- The text of an expression is split into tokens that spell the expression. -/
theorem exists_spells {d t : Nat} {text : String} {e : Expr}
    (h : Writes isExpressionWord d t text e) :
    ∃ ts, Spells d t ts e ∧ Splits Separated text.toList ts := by
  induction h with
  | name h => exact ⟨_, .name h, splits_name h⟩
  | @qualified t q s hq h =>
    have htext : (q ++ "." ++ s).toList = q.toList ++ ('.' :: s.toList) := by simp
    obtain ⟨c, cs, hs, hc, -⟩ := eq_cons_of_isPlainWord h.plain
    have hword := splits_name h
    rw [hs] at htext hword
    refine ⟨_, .qualified hq h, ?_⟩
    rw [htext]
    refine (splits_word hq.plain).append (splits_period.append hword fun rest _ => ?_)
      fun rest _ => ?_
    · rintro _ ⟨⟩
      exact isDigit_of_isPlainStart hc
    · rintro _ ⟨⟩
      exact ⟨by decide +kernel, by decide⟩
  | literal h =>
    obtain ⟨ts, hspells, hsplits⟩ := exists_spellsLiteral h
    exact ⟨ts, .literal hspells, hsplits⟩
  | @nested d t text e h ih =>
    obtain ⟨ts, hspells, hsplits⟩ := ih
    have htext : ("(" ++ text ++ ")").toList = '(' :: (text.toList ++ [')']) := by simp
    refine ⟨_, .nested hspells, ?_⟩
    rw [htext]
    exact splits_inParens hsplits
  | @binary d d' t strength op a b l r hop ht hl hr ihl ihr =>
    obtain ⟨ts, hspells, hsplits⟩ := ihl
    obtain ⟨us, hspells', hsplits'⟩ := ihr
    have htext : (a ++ " " ++ op.symbol ++ " " ++ b).toList =
        a.toList ++ ' ' :: (op.symbol.toList ++ ' ' :: b.toList) := by
      simp
    refine ⟨_, .binary hop ht hspells hspells', ?_⟩
    rw [htext]
    exact hsplits.spaced separated_blank
      ((splits_operator hop).spaced (fun rest => ⟨rest, rfl⟩) hsplits')
  | @inList d d' t negated a b e items ht hl hitems ihl =>
    obtain ⟨ts, hspells, hsplits⟩ := ihl
    obtain ⟨us, hlist, hsplits'⟩ := exists_spellsItems hitems
    have htext : (a ++ " " ++ insideText negated ++ " (" ++ b ++ ")").toList =
        a.toList ++ ' ' :: ((insideText negated).toList ++ ' ' :: '(' :: (b.toList ++ [')'])) := by
      simp
    refine ⟨_, .inList ht hspells hlist, ?_⟩
    rw [htext, List.append_assoc]
    exact hsplits.spaced separated_blank ((splits_insideText negated).spaced
      (fun rest => ⟨rest, rfl⟩) (splits_inParens hsplits'))

end JoinPlan.Sql.Generic
