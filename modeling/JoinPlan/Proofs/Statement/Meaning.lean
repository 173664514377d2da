import JoinPlan.Proofs.Statement.Literals
import JoinPlan.Statement.Reader.Query
import Mathlib.Data.List.Forall2

/-!
# What the clauses of a query mean

The columns that GROUP BY lists, what the items of a select list calculate, and the predicates of
conditions, told by how they are written. Reading a query gives just these.
-/

namespace JoinPlan

namespace Sql

variable (D : Dialect)

/-! ## Columns -/

/-- The column that a name stands for. -/
inductive NamesColumn : List Ident → Column → Prop
  | bare (i : Ident) : NamesColumn [i] ⟨none, i.value⟩
  | parts {parts : List Ident} (h : parts.length ≠ 1) :
      NamesColumn parts (.parse (".".intercalate (parts.map (·.value))))

def Expr.IsColumn (e : Expr) (c : Column) : Prop :=
  ∃ parts, e = .name parts ∧ NamesColumn parts c

/-- Whether GROUP BY has just these columns, in this order. -/
def Grouping.Lists (g : Grouping) (keys : List Column) : Prop :=
  ∃ es modifiers, g = .by es modifiers ∧ List.Forall₂ Expr.IsColumn es keys

/-! ## Calls -/

inductive NamesAggregate : String → AggregateKind → Prop
  | count : NamesAggregate "count" .count
  | sum : NamesAggregate "sum" .sum
  | min : NamesAggregate "min" .min
  | max : NamesAggregate "max" .max
  | avg : NamesAggregate "avg" .avg

/-- The text that an argument hands to a function. -/
inductive Argument.Hands : Argument → String → Prop
  | name (parts : List Ident) :
      Hands (.expr (.name parts)) (".".intercalate (parts.map (·.value)))
  | text (s : String) : Hands (.expr (.value (.text s))) s
  | other {e : Expr} (hname : ∀ parts, e ≠ .name parts) (htext : ∀ s, e ≠ .value (.text s)) :
      Hands (.expr e) (D.text e)

/-- What a call calculates, by its name in lower case and its arguments. -/
inductive Calculates : String → List Argument → Calculation → Prop
  | aggregate {name : String} {kind : AggregateKind} {e : Expr} {c : Column}
      (hname : NamesAggregate name kind) (hcolumn : e.IsColumn c) :
      Calculates name [.expr e] (.aggregate ⟨kind, c⟩)
  | boundary {name : String} {args : List Argument}
      (hname : name = "window_start" ∨ name = "window_end") :
      Calculates name args (.function "window_boundary_time" [name])
  | function {name : String} {args : List Argument} {texts : List String}
      (haggregate : ∀ kind, ¬ NamesAggregate name kind)
      (hboundary : ¬ (name = "window_start" ∨ name = "window_end"))
      (hargs : List.Forall₂ (Argument.Hands D) args texts) :
      Calculates name args (.function name texts)

/-- A call has arguments and not a query in their place. -/
def Expr.IsCall (e : Expr) (c : Calculation) : Prop :=
  ∃ name args form, e = .call name args form ∧ form.query = none ∧
    Calculates D (Text.lower (".".intercalate (name.map (·.value)))) args c

/-- An item is a column or a call. A call writes the column of its alias, or else the one with the
text of the call for a name. -/
inductive Item.Means : Item → SelectItem → Prop
  | column {e : Expr} {c : Column} (h : e.IsColumn c) : Means (.plain e) ⟨c, none⟩
  | call {e : Expr} {c : Calculation} (h : e.IsCall D c) :
      Means (.plain e) ⟨.bare (D.text e), some c⟩
  | named {e : Expr} {asName : Ident} {c : Calculation} (h : e.IsCall D c) :
      Means (.named e asName) ⟨.bare asName.value, some c⟩

/-! ## Literals -/

/-- The constant that a value writes. Only a number with a point is a double. -/
inductive Value.Denotes : Value → Constant → Prop
  | int {text : String} {long : Bool} {i : Int} (hpoint : '.' ∉ text.toList)
      (h : Decimal.readInt64 text.toList = some i) : Denotes (.number text long) (.int i)
  | double {text : String} {long : Bool} {d : Double} (hpoint : '.' ∈ text.toList)
      (h : Double.ofSignedText? text.toList = some d) : Denotes (.number text long) (.double d)
  | text (s : String) : Denotes (.text s) (.text s)
  | doubleQuoted (s : String) : Denotes (.doubleQuoted s) (.text s)
  | bool (b : Bool) : Denotes (.bool b) (.bool b)
  | null : Denotes .null .null

/-- The literal of an expression: a value, or a number with minus signs before it. -/
inductive Expr.IsLiteral : Expr → Literal → Prop
  | value {v : Value} {c : Constant} (h : v.Denotes c) :
      IsLiteral (.value v) (.scalar (D.text (.value v)) c)
  | int {e : Expr} {text : String} {i : Int} (h : IsLiteral e (.scalar text (.int i))) :
      IsLiteral (.minus e) (.scalar (D.text (.minus e)) (.int (-i)))
  | double {e : Expr} {text : String} {d : Double} (h : IsLiteral e (.scalar text (.double d))) :
      IsLiteral (.minus e) (.scalar (D.text (.minus e)) (.double d.neg))

/-! ## Conditions -/

inductive BinaryOp.Compares : BinaryOp → CompareOp → Prop
  | eq : Compares .eq .eq
  | notEq : Compares .notEq .notEq
  | lt : Compares .lt .lt
  | ltEq : Compares .ltEq .ltEq
  | gt : Compares .gt .gt
  | gtEq : Compares .gtEq .gtEq

/-- The operand of an expression. A call stands for the column of the first item that calculates the
same. -/
inductive Expr.IsOperand (items : List SelectItem) : Expr → Operand → Prop
  | column {e : Expr} {c : Column} (h : e.IsColumn c) : IsOperand items e (.column c)
  | call {e : Expr} {c : Calculation} {before after : List SelectItem} {item : SelectItem}
      (h : e.IsCall D c) (hitems : items = before ++ item :: after)
      (hitem : item.calculation = some c) (hbefore : ∀ i ∈ before, i.calculation ≠ some c) :
      IsOperand items e (.column item.output)
  | literal {e : Expr} {l : Literal} (h : e.IsLiteral D l) : IsOperand items e (.literal l)
  | nested {e : Expr} {o : Operand} (h : IsOperand items e o) : IsOperand items (.nested e) o

/-- The predicate of a condition. -/
inductive Expr.Demands (items : List SelectItem) : Expr → Predicate → Prop
  | nested {e : Expr} {p : Predicate} (h : Demands items e p) : Demands items (.nested e) p
  | and {l r : Expr} {p q : Predicate} (hl : Demands items l p) (hr : Demands items r q) :
      Demands items (.binary .and l r) (.and [p, q])
  | or {l r : Expr} {p q : Predicate} (hl : Demands items l p) (hr : Demands items r q) :
      Demands items (.binary .or l r) (.or [p, q])
  | compare {op : BinaryOp} {compareOp : CompareOp} {l r : Expr} {a b : Operand}
      (hop : op.Compares compareOp) (hl : l.IsOperand D items a) (hr : r.IsOperand D items b) :
      Demands items (.binary op l r) (.compare a compareOp b)
  | inList {e : Expr} {negated : Bool} {es : List Expr} {a : Operand} {ls : List Literal}
      (he : e.IsOperand D items a) (hlist : List.Forall₂ (Expr.IsLiteral D) es ls) :
      Demands items (.inList e negated es) (.compare a (if negated then .notIn else .isIn)
        (.literal (.list ("(" ++ ", ".intercalate (es.map D.text) ++ ")") ls)))

end Sql

namespace Reader

variable {D : Sql.Dialect} {e : Sql.Expr} {c : Column} {items : List SelectItem}

/-! ## Columns that are read -/

theorem columnOfName_eq_iff {parts : List Sql.Ident} :
    columnOfName parts = c ↔ Sql.NamesColumn parts c := by
  unfold columnOfName
  split
  · rename_i i
    constructor
    · rintro rfl
      exact .bare i
    · rintro (_ | h)
      · rfl
      · exact absurd rfl h
  · rename_i parts hparts
    constructor
    · rintro rfl
      refine .parts fun hlength => ?_
      obtain ⟨i, rfl⟩ := List.length_eq_one_iff.mp hlength
      exact hparts i rfl
    · rintro (i | h)
      · exact absurd rfl (hparts i)
      · rfl

theorem column_eq_ok_iff : column D e = .ok c ↔ e.IsColumn c := by
  cases e with
  | name parts =>
    simp only [column, Except.ok.injEq, columnOfName_eq_iff, Sql.Expr.IsColumn, Sql.Expr.name.injEq,
      exists_eq_left']
  | _ => exact iff_of_false nofun fun ⟨_, h, _⟩ => nomatch h

theorem groupKeys_eq_ok_iff {g : Sql.Grouping} {keys : List Column} :
    groupKeys D g = .ok keys ↔ g.Lists keys := by
  cases g with
  | all modifiers => exact iff_of_false nofun fun ⟨_, _, h, _⟩ => nomatch h
  | «by» es modifiers =>
    rw [groupKeys, Outcome.mapM_eq_ok]
    simp only [column_eq_ok_iff]
    constructor
    · exact fun h => ⟨es, modifiers, rfl, h⟩
    · rintro ⟨_, _, ⟨⟩, h⟩
      exact h

/-! ## Calls that are read -/

theorem ofText_eq_some_iff {name : String} {kind : AggregateKind} :
    AggregateKind.ofText? name = some kind ↔ Sql.NamesAggregate name kind := by
  constructor
  · intro h
    have hname : kind.text = name := by simpa using List.find?_some h
    subst hname
    cases kind <;> constructor
  · rintro (_ | _ | _ | _ | _) <;> decide +kernel

theorem argument_eq_ok_iff {a : Sql.Argument} {text : String} :
    argument D a = .ok text ↔ a.Hands D text := by
  unfold argument
  split
  · rename_i parts
    rw [Except.ok.injEq]
    constructor
    · rintro rfl
      exact .name parts
    · intro h
      cases h with
      | name => rfl
      | other hname => exact absurd rfl (hname parts)
  · rename_i s
    rw [Except.ok.injEq]
    constructor
    · rintro rfl
      exact .text s
    · intro h
      cases h with
      | text => rfl
      | other _ htext => exact absurd rfl (htext s)
  · rename_i e hname htext
    rw [Except.ok.injEq]
    constructor
    · rintro rfl
      exact .other hname htext
    · intro h
      cases h with
      | name => exact absurd rfl (hname _)
      | text => exact absurd rfl (htext _)
      | other => rfl
  · exact iff_of_false nofun nofun
  · exact iff_of_false nofun nofun

/-- What an aggregate with the name in messages is made of. -/
theorem aggregated_eq_ok_iff {heading : String} {args : List Sql.Argument} :
    aggregated D heading args = .ok c ↔ ∃ e, args = [.expr e] ∧ e.IsColumn c := by
  unfold aggregated
  split
  · rename_i e
    rw [column_eq_ok_iff]
    simp
  · exact iff_of_false nofun fun ⟨_, h, _⟩ => nomatch h
  · rename_i hargs _
    exact iff_of_false nofun fun ⟨e, h, _⟩ => hargs e h

theorem isCall_iff {name : List Sql.Ident} {args : List Sql.Argument} {form : Sql.CallForm}
    {calculation : Calculation} :
    (Sql.Expr.call name args form).IsCall D calculation ↔
      form.query = none ∧ Sql.Calculates D (Text.lower (dotted name)) args calculation := by
  constructor
  · rintro ⟨_, _, _, ⟨⟩, hform, h⟩
    exact ⟨hform, h⟩
  · rintro ⟨hform, h⟩
    exact ⟨name, args, form, rfl, hform, h⟩

theorem not_boundary_of_namesAggregate {name : String} {kind : AggregateKind}
    (h : Sql.NamesAggregate name kind) : ¬ (name = "window_start" ∨ name = "window_end") := by
  cases h <;> decide

theorem calculation_eq_ok_iff {name : List Sql.Ident} {args : List Sql.Argument}
    {form : Sql.CallForm} {found : Calculation} :
    calculation D name args form = .ok found ↔ (Sql.Expr.call name args form).IsCall D found := by
  rw [isCall_iff]
  cases hform : form.query with
  | some q =>
    refine iff_of_false (fun h => ?_) nofun
    simp only [calculation, hform] at h
    cases h
  | none =>
    simp only [calculation, hform, Option.isSome_none, Bool.false_eq_true, if_false, true_and]
    cases hkind : AggregateKind.ofText? (Text.lower (dotted name)) with
    | some kind =>
      have hname := ofText_eq_some_iff.mp hkind
      simp only [Outcome.bind_eq_ok, Outcome.pure_eq_ok, aggregated_eq_ok_iff]
      constructor
      · rintro ⟨c, ⟨e, rfl, he⟩, rfl⟩
        exact .aggregate hname he
      · intro h
        -- No name of an aggregate is that of a bound, so only the first form is left.
        cases h with
        | aggregate hname' he =>
          cases hkind.symm.trans (ofText_eq_some_iff.mpr hname')
          exact ⟨_, ⟨_, rfl, he⟩, rfl⟩
        | boundary hboundary => exact absurd hboundary (not_boundary_of_namesAggregate hname)
        | function haggregate => exact absurd hname (haggregate kind)
    | none =>
      have hnone : ∀ kind, ¬ Sql.NamesAggregate (Text.lower (dotted name)) kind := fun kind h => by
        cases hkind.symm.trans (ofText_eq_some_iff.mpr h)
      dsimp only
      split
      · rename_i hboundary
        rw [Outcome.pure_eq_ok]
        constructor
        · rintro rfl
          exact .boundary hboundary
        · intro h
          cases h with
          | aggregate hname => exact absurd hname (hnone _)
          | boundary => rfl
          | function _ hother => exact absurd hboundary hother
      · rename_i hboundary
        simp only [Outcome.bind_eq_ok, Outcome.pure_eq_ok, Outcome.mapM_eq_ok, argument_eq_ok_iff]
        constructor
        · rintro ⟨texts, htexts, rfl⟩
          exact .function hnone hboundary htexts
        · intro h
          cases h with
          | aggregate hname => exact absurd hname (hnone _)
          | boundary hname => exact absurd hname hboundary
          | function _ _ htexts => exact ⟨_, htexts, rfl⟩

theorem selectItem_eq_ok_iff {item : Sql.Item} {found : SelectItem} :
    selectItem D item = .ok found ↔ item.Means D found := by
  unfold selectItem
  split
  · rename_i parts
    rw [Except.ok.injEq]
    constructor
    · rintro rfl
      exact .column ⟨parts, rfl, columnOfName_eq_iff.mp rfl⟩
    · intro h
      cases h with
      | column h =>
        obtain ⟨_, ⟨⟩, h⟩ := h
        rw [columnOfName_eq_iff.mpr h]
      | call h =>
        obtain ⟨_, _, _, ⟨⟩, _⟩ := h
  · rename_i name args form
    simp only [Outcome.bind_eq_ok, Outcome.pure_eq_ok, calculation_eq_ok_iff]
    constructor
    · rintro ⟨c, hc, rfl⟩
      exact .call hc
    · intro h
      cases h with
      | column h =>
        obtain ⟨_, ⟨⟩, _⟩ := h
      | call h => exact ⟨_, h, rfl⟩
  · rename_i e hname hcall
    refine iff_of_false nofun fun h => ?_
    cases h with
    | column h =>
      obtain ⟨parts, rfl, -⟩ := h
      exact hname parts rfl
    | call h =>
      obtain ⟨name, args, form, rfl, -⟩ := h
      exact hcall name args form rfl
  · rename_i name args form asName
    simp only [Outcome.bind_eq_ok, Outcome.pure_eq_ok, calculation_eq_ok_iff]
    constructor
    · rintro ⟨c, hc, rfl⟩
      exact .named hc
    · rintro (_ | _ | h)
      exact ⟨_, h, rfl⟩
  · rename_i e asName hcall
    refine iff_of_false nofun fun h => ?_
    cases h with
    | named h =>
      obtain ⟨name, args, form, rfl, -⟩ := h
      exact hcall name args form rfl
  · exact iff_of_false nofun nofun
  · exact iff_of_false nofun nofun

/-! ## Literals that are read -/

theorem constant_eq_ok_iff {v : Sql.Value} {c : Constant} :
    constant D v = .ok c ↔ v.Denotes c := by
  constructor
  · intro h
    unfold constant at h
    split at h
    · unfold number at h
      split at h
      · rename_i hpoint
        split at h
        · rename_i d hd
          cases h
          exact .double hpoint hd
        · cases h
      · rename_i hpoint
        split at h
        · rename_i i hi
          cases h
          exact .int hpoint hi
        · cases h
    · cases h
      exact .text _
    · cases h
      exact .doubleQuoted _
    · cases h
      exact .bool _
    · cases h
      exact .null
    · cases h
  · intro h
    cases h with
    | int hpoint h => rw [constant, number, if_neg hpoint, h]
    | double hpoint h => rw [constant, number, if_pos hpoint, h]
    | text | doubleQuoted | bool | null => rfl

theorem literal_eq_ok_iff {l : Literal} : literal D e = .ok l ↔ e.IsLiteral D l := by
  constructor
  · intro h
    fun_induction literal D e generalizing l with
    | case1 v =>
      cases hconstant : constant D v with
      | error cause =>
        rw [hconstant] at h
        cases h
      | ok c =>
        rw [hconstant] at h
        cases h
        exact .value (constant_eq_ok_iff.mp hconstant)
    | case2 inner cause hinner => cases h
    | case3 inner l' hinner c hnegated ih =>
      cases h
      unfold negated? at hnegated
      split at hnegated
      · cases hnegated
        exact .int (ih hinner)
      · cases hnegated
        exact .double (ih hinner)
      · cases hnegated
    | case4 inner l' hinner hnegated => cases h
    | case5 e => cases h
  · intro h
    induction h with
    | value h =>
      rw [literal, constant_eq_ok_iff.mpr h]
      rfl
    | int _ ih | double _ ih =>
      rw [literal, ih]
      rfl

/-! ## Conditions that are read -/

theorem compareOp_eq_ok_iff {op : Sql.BinaryOp} {found : CompareOp} :
    compareOp op = .ok found ↔ op.Compares found := by
  constructor
  · intro h
    cases op <;> cases h <;> constructor
  · intro h
    cases h <;> rfl

theorem computed_eq_ok_iff {text : String} {calculation : Calculation} :
    computed items text calculation = .ok c ↔ ∃ before item after,
      items = before ++ item :: after ∧ item.calculation = some calculation ∧
        (∀ i ∈ before, i.calculation ≠ some calculation) ∧ item.output = c := by
  unfold computed
  split
  · rename_i item hitem
    constructor
    · rintro ⟨⟩
      obtain ⟨hfound, before, after, hitems, hbefore⟩ := List.find?_eq_some_iff_append.mp hitem
      exact ⟨before, item, after, hitems, by simpa using hfound, by simpa using hbefore, rfl⟩
    · rintro ⟨before, first, after, hitems, hfound, hbefore, rfl⟩
      have hfirst : items.find? (·.calculation == some calculation) = some first := by
        rw [List.find?_eq_some_iff_append]
        exact ⟨by simpa using hfound, before, after, hitems, by simpa using hbefore⟩
      cases hitem.symm.trans hfirst
      rfl
  · rename_i hnone
    refine iff_of_false nofun ?_
    rintro ⟨before, item, after, rfl, hfound, -⟩
    exact List.find?_eq_none.mp hnone item (by simp) (beq_iff_eq.mpr hfound)

theorem operand_eq_ok_iff {o : Operand} :
    operand D items e = .ok o ↔ e.IsOperand D items o := by
  constructor
  · intro h
    fun_induction operand D items e generalizing o with
    | case1 parts =>
      cases h
      exact .column ⟨parts, rfl, columnOfName_eq_iff.mp rfl⟩
    | case2 inner ih => exact .nested (ih h)
    | case3 name args form =>
      simp only [Outcome.bind_eq_ok, Outcome.pure_eq_ok, calculation_eq_ok_iff,
        computed_eq_ok_iff] at h
      obtain ⟨c, hc, column, ⟨before, item, after, hitems, hitem, hbefore, rfl⟩, rfl⟩ := h
      exact .call hc hitems hitem hbefore
    | case4 e =>
      cases hliteral : literal D e with
      | error cause =>
        rw [hliteral] at h
        cases h
      | ok l =>
        rw [hliteral] at h
        cases h
        exact .literal (literal_eq_ok_iff.mp hliteral)
  · intro h
    induction h with
    | column h =>
      obtain ⟨parts, rfl, h⟩ := h
      rw [operand, columnOfName_eq_iff.mpr h]
    | @call e c before after item h hitems hitem hbefore =>
      obtain ⟨name, args, form, rfl, -⟩ := id h
      simp only [operand, Outcome.bind_eq_ok, Outcome.pure_eq_ok]
      exact ⟨c, calculation_eq_ok_iff.mpr h, _, computed_eq_ok_iff.mpr
        ⟨before, item, after, hitems, hitem, hbefore, rfl⟩, rfl⟩
    | literal h => exact operand_of_literal (literal_eq_ok_iff.mpr h)
    | nested _ ih => exact ih

theorem predicate_eq_ok_iff {p : Predicate} :
    predicate D items e = .ok p ↔ e.Demands D items p := by
  constructor
  · intro h
    fun_induction predicate D items e generalizing p with
    | case1 inner ih => exact .nested (ih h)
    | case2 left right ihleft ihright =>
      simp only [Outcome.bind_eq_ok, Outcome.pure_eq_ok] at h
      obtain ⟨l, hl, r, hr, rfl⟩ := h
      exact .and (ihleft hl) (ihright hr)
    | case3 left right ihleft ihright =>
      simp only [Outcome.bind_eq_ok, Outcome.pure_eq_ok] at h
      obtain ⟨l, hl, r, hr, rfl⟩ := h
      exact .or (ihleft hl) (ihright hr)
    | case4 op left right =>
      simp only [Outcome.bind_eq_ok, Outcome.pure_eq_ok, compareOp_eq_ok_iff,
        operand_eq_ok_iff] at h
      obtain ⟨l, hl, o, ho, r, hr, rfl⟩ := h
      exact .compare ho hl hr
    | case5 e negated list =>
      simp only [Outcome.bind_eq_ok, Outcome.pure_eq_ok, Outcome.mapM_eq_ok, literal_eq_ok_iff,
        operand_eq_ok_iff] at h
      obtain ⟨literals, hliterals, l, hl, rfl⟩ := h
      exact .inList hl hliterals
    | case6 e => cases h
  · intro h
    induction h with
    | nested _ ih => exact ih
    | and _ _ ihl ihr | or _ _ ihl ihr =>
      rw [predicate, ihl, ihr]
      rfl
    | compare hop hl hr =>
      have hl := operand_eq_ok_iff.mpr hl
      have hr := operand_eq_ok_iff.mpr hr
      cases hop <;> (simp only [predicate, hl, hr]; rfl)
    | inList he hlist =>
      have hread := Outcome.mapM_eq_ok.mpr (hlist.imp fun _ _ h => literal_eq_ok_iff.mpr h)
      rw [predicate, hread, operand_eq_ok_iff.mpr he]
      rfl

end Reader

/-! ## Clauses -/

/-- What the clauses of a select are read as: its list, GROUP BY, WHERE and HAVING. A call in HAVING
stands for an item of the list. -/
structure Sql.Select.Reads (D : Sql.Dialect) (s : Sql.Select) (items : List SelectItem)
    (keys : List Column) (before having : Option Predicate) : Prop where
  listed : List.Forall₂ (Item.Means D) s.items items
  grouped : s.grouping.Lists keys
  filtered : Option.Rel (Expr.Demands D []) s.selection before
  kept : Option.Rel (Expr.Demands D items) s.having having

theorem Reader.rel_of_mapM {D : Sql.Dialect} {items : List SelectItem} {e : Option Sql.Expr}
    {p : Option Predicate} (h : e.mapM (predicate D items) = .ok p) :
    Option.Rel (Sql.Expr.Demands D items) e p := by
  cases e with
  | none =>
    cases h
    exact .none
  | some e =>
    rw [Option.mapM_some] at h
    cases hp : predicate D items e with
    | error cause =>
      rw [hp] at h
      cases h
    | ok p' =>
      rw [hp] at h
      cases h
      exact .some (predicate_eq_ok_iff.mp hp)

/-- The aggregates and the functions among the items of a select list, each in the order of the list
and with the column that it writes. -/
inductive Collects : List SelectItem → List (Aggregate × String) → List FunctionCall → Prop
  | nil : Collects [] [] []
  | column {c : Column} {items : List SelectItem} {aggregates : List (Aggregate × String)}
      {calls : List FunctionCall} (h : Collects items aggregates calls) :
      Collects (⟨c, none⟩ :: items) aggregates calls
  | aggregate {c : Column} {a : Aggregate} {items : List SelectItem}
      {aggregates : List (Aggregate × String)} {calls : List FunctionCall}
      (h : Collects items aggregates calls) :
      Collects (⟨c, some (.aggregate a)⟩ :: items) ((a, c.text) :: aggregates) calls
  | function {c : Column} {name : String} {args : List String} {items : List SelectItem}
      {aggregates : List (Aggregate × String)} {calls : List FunctionCall}
      (h : Collects items aggregates calls) :
      Collects (⟨c, some (.function name args)⟩ :: items) aggregates
        (⟨name, args, c.text⟩ :: calls)

theorem JoinQuery.collects (q : JoinQuery) : Collects q.items q.aggregates q.calls := by
  unfold aggregates calls
  induction q.items with
  | nil => exact .nil
  | cons item items ih =>
    obtain ⟨c, _ | a | ⟨name, args⟩⟩ := item
    · exact .column ih
    · exact .aggregate ih
    · exact .function ih

end JoinPlan
