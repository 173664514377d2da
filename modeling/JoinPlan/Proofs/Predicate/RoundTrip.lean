import JoinPlan.Predicate.Printer
import JoinPlan.Proofs.Join.Resolve
import JoinPlan.Proofs.Predicate.Pairs
import JoinPlan.Proofs.Sql.Generic.Grammar
import JoinPlan.Proofs.Statement.Meaning

/-!
# Conditions read from their texts

A part that is not a comparison is written in parentheses, and so no operator outside takes a piece of
it. In a dialect that reads what is written, the text of a predicate with plain comparisons gives the
predicate with its nodes nested to the left, which has the same normal form.
-/

namespace JoinPlan

/-! ## Plain comparisons -/

namespace Literal

/-- A whole number as a statement writes it. -/
def ofInt (i : Int) : Literal :=
  .scalar (toString i) (.int i)

def ofText (s : String) : Literal :=
  .scalar ("'" ++ s ++ "'") (.text s)

def ofItems (items : List Literal) : Literal :=
  .list ("(" ++ ", ".intercalate (items.map content) ++ ")") items

/-- A whole number of 64 bits or a text without quotes and backslashes. -/
inductive Plain : Literal → Prop
  | int {i : Int} (h : i.natAbs < Nat.pow 2 63) : Plain (ofInt i)
  | text {s : String} (hquote : '\'' ∉ s.toList) (hbackslash : '\\' ∉ s.toList) : Plain (ofText s)

end Literal

/-- A column with names that are no keywords, or a plain literal. -/
inductive Operand.Plain (isKeyword : String → Bool) : Operand → Prop
  | column {c : Column} (hqualifier : ∀ q ∈ c.qualifier, Sql.IsPlainName isKeyword q)
      (hname : Sql.IsPlainName isKeyword c.name) : Plain isKeyword (.column c)
  | literal {l : Literal} (h : l.Plain) : Plain isKeyword (.literal l)

/-- A comparison of two plain operands, or of one with a list of plain literals. -/
inductive Comparison.Plain (isKeyword : String → Bool) : Comparison → Prop
  | compare {name : String} {left right : Operand} {op : CompareOp} (hin : op ≠ .isIn)
      (hnot : op ≠ .notIn) (hl : left.Plain isKeyword) (hr : right.Plain isKeyword) :
      Plain isKeyword ⟨name, left, op, right⟩
  | inside {name : String} {left : Operand} {op : CompareOp} {items : List Literal}
      (hop : op = .isIn ∨ op = .notIn) (hl : left.Plain isKeyword) (hne : items ≠ [])
      (hitems : ∀ l ∈ items, l.Plain) :
      Plain isKeyword ⟨name, left, op, .literal (.ofItems items)⟩

/-! ## Depth of texts -/

mutual
/-- How many levels of nesting a literal takes. A sign takes one more. -/
def Literal.depth : Literal → Nat
  | .scalar _ (.int i) => if i < 0 then 2 else 1
  | .scalar _ _ => 1
  | .list _ items => Literal.deepest items

def Literal.deepest : List Literal → Nat
  | [] => 0
  | l :: ls => max l.depth (Literal.deepest ls)
end

def Operand.depth : Operand → Nat
  | .column _ => 1
  | .literal l => l.depth

/-- What stands behind an operator is nested within it. -/
def Comparison.depth (c : Comparison) : Nat :=
  max c.left.depth (c.right.depth + 1)

namespace Predicate

/-- The depth of parts that are joined one after the other. -/
def joinedDepth : List Nat → Nat
  | [] => 0
  | d :: ds => ds.foldl (fun before d => max before (d + 1)) d

mutual
/-- How many levels of nesting the text of a predicate takes. -/
def depth : Predicate → Nat
  | .leaf c => c.depth
  | .node _ _ children => joinedDepth (partDepths children)

def partDepths : List Predicate → List Nat
  | [] => []
  | .leaf c :: ps => c.depth :: partDepths ps
  | .node name connective children :: ps =>
    (depth (.node name connective children) + 1) :: partDepths ps
end

end Predicate

section

variable {D : Sql.Dialect} {isKeyword : String → Bool} {limit : Nat}

/-! ## Literals -/

theorem Sql.Expr.isLiteral_number {n : Nat} (h : n < Nat.pow 2 63) :
    (Sql.Expr.value (.number (toString n) false)).IsLiteral D
      (.scalar (D.text (.value (.number (toString n) false))) (.int n)) := by
  obtain ⟨d, ds, hds, hdigits⟩ := Decimal.toList_toString n
  rw [← hds] at hdigits
  have hne : toString n ≠ "" := fun hempty => by simp [hempty] at hds
  have hunsigned : (Sql.Expr.value (.number (toString n) false)).Unsigned :=
    Decimal.unsigned_of_digits hdigits
  have hwrites : (Sql.Expr.value (.number (toString n) false)).WritesWhole _ :=
    .digits hne hdigits
  rw [Decimal.digitsToNat_toString] at hwrites
  exact Reader.literal_eq_ok_iff.mp ((Reader.literal_eq_int_iff hunsigned).mpr ⟨rfl, hwrites, h⟩)

namespace Literal

/-- A plain literal is written as an expression that stands for the literal. -/
theorem Plain.exists_writes (hD : D.ReadsWritten isKeyword limit) {l : Literal} (h : l.Plain) :
    ∃ e, Sql.WritesLiteral l.depth l.content e ∧ e.IsLiteral D l := by
  cases h with
  | @int i h =>
    cases i with
    | ofNat n =>
      have hnumber : n < Nat.pow 2 63 := h
      have hwrites := Sql.WritesLiteral.number n
      have hliteral := Sql.Expr.isLiteral_number (D := D) hnumber
      rw [hD.prints hwrites] at hliteral
      exact ⟨_, hwrites, hliteral⟩
    | negSucc n =>
      have hnumber : n + 1 < Nat.pow 2 63 := h
      have hdepth : (ofInt (.negSucc n)).depth = 2 := if_pos (Int.negSucc_lt_zero n)
      have hwrites := Sql.WritesLiteral.negative (n + 1)
      have hliteral := (Sql.Expr.isLiteral_number (D := D) hnumber).int
      rw [hD.prints hwrites] at hliteral
      exact ⟨_, hdepth ▸ hwrites, hliteral⟩
  | @text s hquote hbackslash =>
    have hwrites := Sql.WritesLiteral.text hquote hbackslash
    have hliteral : (Sql.Expr.value (.text s)).IsLiteral D _ := .value (.text s)
    rw [hD.prints hwrites] at hliteral
    exact ⟨_, hwrites, hliteral⟩

theorem exists_writesItems (hD : D.ReadsWritten isKeyword limit) {items : List Literal}
    (hne : items ≠ []) (h : ∀ l ∈ items, l.Plain) :
    ∃ es, Sql.WritesItems (deepest items) (", ".intercalate (items.map content)) es ∧
      es.map D.text = items.map content ∧
        List.Forall₂ (Sql.Expr.IsLiteral D) es items := by
  induction items with
  | nil => exact absurd rfl hne
  | cons l ls ih =>
    obtain ⟨e, hwrites, hread⟩ := (h l List.mem_cons_self).exists_writes hD
    cases ls with
    | nil =>
      have hdepth : deepest [l] = l.depth := Nat.max_zero _
      exact ⟨[e], hdepth ▸ .one hwrites, congrArg (fun text => [text]) (hD.prints hwrites),
        .cons hread .nil⟩
    | cons k ks =>
      obtain ⟨es, hrest, htexts, hreads⟩ :=
        ih (List.cons_ne_nil k ks) fun m hm => h m (List.mem_cons_of_mem l hm)
      refine ⟨e :: es, ?_, ?_, .cons hread hreads⟩
      · rw [List.map_cons, List.map_cons, String.intercalate_cons_cons]
        exact .cons hwrites hrest
      · rw [List.map_cons, List.map_cons, hD.prints hwrites, htexts]

end Literal

/-! ## Operands -/

theorem Column.parse_of_plain {q s : String} (h : Sql.IsPlainName isKeyword q) :
    Column.parse (q ++ "." ++ s) = ⟨some q, s⟩ := by
  obtain ⟨c, cs, hq, hc, hcs⟩ := Sql.eq_cons_of_isPlainWord h.plain
  have hpoint : '.' ∉ q.toList := by
    rw [hq]
    intro hd
    rcases List.mem_cons.mp hd with rfl | hd
    · exact absurd hc (by decide)
    · exact absurd (hcs '.' hd) (by decide)
  have hne : q ≠ "" := by
    rintro rfl
    exact absurd hq (by simp)
  rw [parse_append hpoint, qualified, if_neg hne]

theorem Operand.Plain.exists_writes (hD : D.ReadsWritten isKeyword limit) {o : Operand}
    (h : o.Plain isKeyword) :
    ∃ e, (∀ t, Sql.Writes isKeyword o.depth t o.text e) ∧ e.IsOperand D [] o := by
  cases h with
  | @column c hqualifier hname =>
    obtain ⟨qualifier, name⟩ := c
    cases qualifier with
    | none => exact ⟨_, fun t => .name hname, .column ⟨_, rfl, .bare _⟩⟩
    | some q =>
      have hq := hqualifier q rfl
      have hcolumn : Reader.columnOfName [⟨q, none⟩, ⟨name, none⟩] = ⟨some q, name⟩ := by
        simp [Reader.columnOfName, Reader.dotted, String.intercalate_cons_cons,
          Column.parse_of_plain hq]
      exact ⟨_, fun t => .qualified hq hname,
        .column ⟨_, rfl, Reader.columnOfName_eq_iff.mp hcolumn⟩⟩
  | @literal l h =>
    obtain ⟨e, hwrites, hread⟩ := h.exists_writes hD
    exact ⟨e, fun t => .literal hwrites, .literal hread⟩

/-! ## Comparisons -/

/-- Whether a text is that of an expression which stands for the predicate. The expression takes so
many levels of nesting and is not split by operators that bind less tightly than the strength. -/
def Predicate.Written (D : Sql.Dialect) (isKeyword : String → Bool) (d t : Nat) (text : String)
    (p : Predicate) : Prop :=
  ∃ e, Sql.Writes isKeyword d t text e ∧ e.Demands D [] p

theorem CompareOp.exists_compares {op : CompareOp} (hin : op ≠ .isIn) (hnot : op ≠ .notIn) :
    ∃ b : Sql.BinaryOp, b.symbol = op.symbol ∧ b.strength? = some 20 ∧ b.Compares op := by
  cases op with
  | isIn => exact absurd rfl hin
  | notIn => exact absurd rfl hnot
  | eq => exact ⟨.eq, rfl, rfl, .eq⟩
  | notEq => exact ⟨.notEq, rfl, rfl, .notEq⟩
  | lt => exact ⟨.lt, rfl, rfl, .lt⟩
  | ltEq => exact ⟨.ltEq, rfl, rfl, .ltEq⟩
  | gt => exact ⟨.gt, rfl, rfl, .gt⟩
  | gtEq => exact ⟨.gtEq, rfl, rfl, .gtEq⟩

theorem Comparison.Plain.written (hD : D.ReadsWritten isKeyword limit) {c : Comparison}
    (h : c.Plain isKeyword) :
    Predicate.Written D isKeyword c.depth 20 c.text (.leaf { c with name := "" }) := by
  cases h with
  | @compare name left right op hin hnot hl hr =>
    obtain ⟨e, hlwrites, hlread⟩ := hl.exists_writes hD
    obtain ⟨e', hrwrites, hrread⟩ := hr.exists_writes hD
    obtain ⟨b, hsymbol, hstrength, hcompares⟩ := CompareOp.exists_compares hin hnot
    refine ⟨_, ?_, .compare hcompares hlread hrread⟩
    rw [text, ← hsymbol]
    exact .binary hstrength (Nat.le_refl _) (hlwrites _) (hrwrites _)
  | @inside name left op items hop hl hne hitems =>
    obtain ⟨e, hlwrites, hlread⟩ := hl.exists_writes hD
    obtain ⟨es, hwrites, htexts, hread⟩ := Literal.exists_writesItems hD hne hitems
    obtain ⟨negated, hnegated⟩ : ∃ negated : Bool,
        op = if negated then CompareOp.notIn else CompareOp.isIn := by
      rcases hop with rfl | rfl
      · exact ⟨false, rfl⟩
      · exact ⟨true, rfl⟩
    have hsymbol : op.symbol = Sql.insideText negated := by
      subst hnegated
      cases negated <;> rfl
    have htext : text ⟨name, left, op, .literal (.ofItems items)⟩ =
        left.text ++ " " ++ Sql.insideText negated ++ " (" ++
          ", ".intercalate (items.map Literal.content) ++ ")" := by
      have hopen : " (" = " " ++ "(" := rfl
      rw [← hsymbol, hopen]
      simp only [text, Operand.text, Literal.ofItems, Literal.content, String.append_assoc]
    refine ⟨.inList e negated es, ?_, ?_⟩
    · rw [htext]
      exact .inList (Nat.le_refl _) (hlwrites _) hwrites
    · have hlist : (Sql.Expr.inList e negated es).Demands D [] _ :=
        .inList hlread hread
      rw [htexts, ← hnegated] at hlist
      exact hlist

/-! ## Joined parts -/

namespace Connective

def binaryOp : Connective → Sql.BinaryOp
  | .and => .and
  | .or => .or

/-- What stands between two parts. -/
def separator (connective : Connective) : String :=
  " " ++ connective.keyword ++ " "

/-- How tightly the parts are joined. -/
def strength : Connective → Nat
  | .and => 10
  | .or => 5

theorem strength_binaryOp (connective : Connective) :
    connective.binaryOp.strength? = some connective.strength := by
  cases connective <;> rfl

theorem strength_lt (connective : Connective) : connective.strength < 20 := by
  cases connective <;> decide

theorem strength_pos (connective : Connective) : 0 < connective.strength := by
  cases connective <;> decide

end Connective

theorem Sql.Expr.Demands.join {connective : Connective} {e e' : Sql.Expr} {p q : Predicate}
    (h : e.Demands D [] p) (h' : e'.Demands D [] q) :
    (Sql.Expr.binary connective.binaryOp e e').Demands D [] (.node "" connective [p, q]) := by
  cases connective with
  | and => exact .and h h'
  | or => exact .or h h'

namespace Predicate

variable {d d' t t' : Nat} {a b : String} {p q : Predicate} {ps : List Predicate}
  {connective : Connective}

theorem Written.mono (h : Written D isKeyword d t a p) (ht : t' ≤ t) :
    Written D isKeyword d t' a p := by
  obtain ⟨e, hwrites, hread⟩ := h
  exact ⟨e, hwrites.mono ht, hread⟩

theorem Written.nested (h : Written D isKeyword d 1 a p) :
    Written D isKeyword (d + 1) t ("(" ++ a ++ ")") p := by
  obtain ⟨e, hwrites, hread⟩ := h
  exact ⟨.nested e, .nested hwrites, .nested hread⟩

/-- A part without parentheses binds more tightly than any connective. -/
theorem Written.join (h : Written D isKeyword d connective.strength a p)
    (h' : Written D isKeyword d' 20 b q) :
    Written D isKeyword (max d (d' + 1)) connective.strength (a ++ connective.separator ++ b)
      (.node "" connective [p, q]) := by
  have hsymbol : connective.binaryOp.symbol = connective.keyword := by cases connective <;> rfl
  obtain ⟨e, hwrites, hread⟩ := h
  obtain ⟨e', hwrites', hread'⟩ := h'.mono connective.strength_lt
  have htext : a ++ connective.separator ++ b =
      a ++ " " ++ connective.binaryOp.symbol ++ " " ++ b := by
    simp only [Connective.separator, hsymbol, String.append_assoc]
  rw [htext]
  exact ⟨_, .binary connective.strength_binaryOp (Nat.le_refl _) hwrites hwrites',
    hread.join hread'⟩

/-- The text of a predicate as a part of another. -/
def partText : Predicate → String
  | .leaf c => c.text
  | .node name connective children => "(" ++ text (.node name connective children) ++ ")"

def partDepth : Predicate → Nat
  | .leaf c => c.depth
  | .node name connective children => depth (.node name connective children) + 1

theorem partTexts_cons (p : Predicate) (ps : List Predicate) :
    partTexts (p :: ps) = p.partText :: partTexts ps := by
  cases p <;> rfl

theorem partDepths_cons (p : Predicate) (ps : List Predicate) :
    partDepths (p :: ps) = p.partDepth :: partDepths ps := by
  cases p <;> rfl

/-- Parts that are written behind a text are joined to what stands there one after the other. -/
theorem Written.joinAll (h : Written D isKeyword d connective.strength a p)
    (hps : ∀ q ∈ ps, Written D isKeyword q.partDepth 20 q.partText q.paired) :
    Written D isKeyword (joinedDepth (d :: partDepths ps)) connective.strength
      (connective.separator.intercalate (a :: partTexts ps)) (pairedUnder connective p ps) := by
  induction ps generalizing d a p with
  | nil => simpa [joinedDepth, partDepths, partTexts, pairedUnder] using h
  | cons q ps ih =>
    rw [partTexts_cons, String.intercalate_cons_cons, ← String.intercalate_cons_append,
      partDepths_cons]
    exact ih (h.join (hps q List.mem_cons_self)) fun r hr => hps r (List.mem_cons_of_mem q hr)

/-- The text of a predicate is read as the predicate nested to the left, and so is its text as a
part of another. -/
theorem written_paired (hD : D.ReadsWritten isKeyword limit)
    (h : p.Branching (Comparison.Plain isKeyword)) :
    Written D isKeyword p.depth 1 p.text p.paired ∧
      Written D isKeyword p.partDepth 20 p.partText p.paired := by
  induction h with
  | leaf h => exact ⟨(h.written hD).mono (by decide), h.written hD⟩
  | @node name connective ps htwo hps ih =>
    obtain ⟨p, ps, rfl⟩ : ∃ p rest, ps = p :: rest := by
      match ps, htwo with
      | p :: rest, _ => exact ⟨p, rest, rfl⟩
    -- The children are parts of this node, so of them it is the second text that is joined.
    have hfirst := (ih p List.mem_cons_self).2.mono (Nat.le_of_lt connective.strength_lt)
    have hall := hfirst.joinAll fun q hq => (ih q (List.mem_cons_of_mem p hq)).2
    rw [← partTexts_cons, ← partDepths_cons] at hall
    have hnode := hall.mono connective.strength_pos
    exact ⟨hnode, hnode.nested⟩

/-! ## Reading back -/

theorem read_text_eq_paired (hD : D.ReadsWritten isKeyword limit)
    (h : p.Branching (Comparison.Plain isKeyword)) (hdepth : p.depth ≤ limit) :
    readIn D p.text = .ok p.paired := by
  obtain ⟨e, hwrites, hread⟩ := (written_paired hD h).1
  obtain ⟨ts, htokens, hexpr⟩ := hD.reads hwrites hdepth
  have hfront : D.tokens p.text >>= D.expr = .ok (e, []) :=
    Outcome.bind_eq_ok.mpr ⟨ts, htokens, hexpr⟩
  rw [readIn, hfront]
  exact Reader.predicate_eq_ok_iff.mpr hread

/-- In a dialect that reads what is written, the text of a predicate of plain comparisons, in which
every node has two children or more, is read as a predicate with the same normal form unless it is
nested too deeply. -/
theorem exists_read_text_normalize (hD : D.ReadsWritten isKeyword limit)
    (h : p.Branching (Comparison.Plain isKeyword)) (hdepth : p.depth ≤ limit) :
    ∃ q, readIn D p.text = .ok q ∧ q.normalize = p.normalize :=
  ⟨p.paired, read_text_eq_paired hD h hdepth, normalize_paired h⟩

/-- Parts of either connective within the other and within its own. -/
def openOrders : Predicate :=
  .and [
    .compare (.column ⟨some "o", "amount"⟩) .gtEq (.literal (.ofInt (-5))),
    .or [
      .compare (.column (.bare "currency")) .notIn
        (.literal (.ofItems [.ofText "EUR", .ofText "USD"])),
      .and [
        .compare (.column ⟨some "o", "customer_id"⟩) .eq (.column ⟨some "c", "id"⟩),
        .compare (.literal (.ofInt 3)) .lt (.column (.bare "attempts"))]],
    .and [
      .compare (.column (.bare "status")) .notEq (.literal (.ofText "void")),
      .compare (.column (.bare "id")) .isIn (.literal (.ofItems [.ofInt 1, .ofInt (-2)]))]]

theorem branching_openOrders :
    openOrders.Branching (Comparison.Plain Sql.Generic.isExpressionWord) := by
  have hcolumn {c : Column} (h : (∀ q ∈ c.qualifier, Sql.Generic.IsName q) ∧
      Sql.Generic.IsName c.name) : (Operand.column c).Plain Sql.Generic.isExpressionWord :=
    .column h.1 h.2
  have hint {i : Int} (h : i.natAbs < Nat.pow 2 63) :
      (Operand.literal (.ofInt i)).Plain Sql.Generic.isExpressionWord := .literal (.int h)
  have htext {s : String} (h : '\'' ∉ s.toList ∧ '\\' ∉ s.toList) : (Literal.ofText s).Plain :=
    .text h.1 h.2
  have hcurrencies : ∀ l ∈ [Literal.ofText "EUR", .ofText "USD"], l.Plain := by
    simp only [List.forall_mem_cons]
    exact ⟨htext (by decide), htext (by decide), nofun⟩
  have hids : ∀ l ∈ [Literal.ofInt 1, .ofInt (-2)], l.Plain := by
    simp only [List.forall_mem_cons]
    exact ⟨.int (by decide), .int (by decide), nofun⟩
  refine .node (by decide) ?_
  simp only [List.forall_mem_cons]
  refine ⟨.leaf (.compare nofun nofun (hcolumn (by decide +kernel)) (hint (by decide))),
    .node (by decide) ?_, .node (by decide) ?_, nofun⟩
  · simp only [List.forall_mem_cons]
    refine ⟨.leaf (.inside (.inr rfl) (hcolumn (by decide +kernel)) nofun hcurrencies),
      .node (by decide) ?_, nofun⟩
    simp only [List.forall_mem_cons]
    exact ⟨.leaf (.compare nofun nofun (hcolumn (by decide +kernel)) (hcolumn (by decide +kernel))),
      .leaf (.compare nofun nofun (hint (by decide)) (hcolumn (by decide +kernel))), nofun⟩
  · simp only [List.forall_mem_cons]
    exact ⟨.leaf (.compare nofun nofun (hcolumn (by decide +kernel))
        (.literal (htext (by decide)))),
      .leaf (.inside (.inl rfl) (hcolumn (by decide +kernel)) nofun hids), nofun⟩

theorem exists_read_text_normalize_openOrders :
    openOrders.text =
        "o.amount >= -5 AND (currency NOT IN ('EUR', 'USD') OR (o.customer_id = c.id AND " ++
          "3 < attempts)) AND (status <> 'void' AND id IN (1, -2))" ∧
      Sql.Dialect.generic.ReadsWritten Sql.Generic.isExpressionWord Sql.Generic.depthLimit ∧
      openOrders.Branching (Comparison.Plain Sql.Generic.isExpressionWord) ∧
      openOrders.depth ≤ Sql.Generic.depthLimit ∧
      ∃ q, readIn .generic openOrders.text = .ok q ∧ q.normalize = openOrders.normalize :=
  ⟨by decide +kernel, Sql.Generic.readsWritten_generic, branching_openOrders, by decide,
    exists_read_text_normalize Sql.Generic.readsWritten_generic branching_openOrders (by decide)⟩

end Predicate

end

end JoinPlan
