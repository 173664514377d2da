import JoinPlan.Proofs.Decimal.Digits
import JoinPlan.Proofs.Outcome
import JoinPlan.Sql.Generic.Query
import JoinPlan.Statement.Reader.Condition

/-!
# Whole numbers with signs

A whole number in a statement is written as digits with minus signs before them. It is read only when
its digits are below 2^63, and so each sign changes a number to another that has 64 bits.
-/

namespace JoinPlan

/-! ## Written numbers -/

/-- Whether an expression writes a whole number: digits, and any minus signs before them. -/
inductive Sql.Expr.WritesWhole : Sql.Expr → Int → Prop
  | digits {text : String} {long : Bool} (hne : text ≠ "")
      (h : ∀ c ∈ text.toList, c.isDigit = true) :
      WritesWhole (.value (.number text long)) (Decimal.digitsToNat text.toList)
  | minus {e : Expr} {i : Int} (h : e.WritesWhole i) : WritesWhole (.minus e) (-i)

theorem Sql.Expr.writesWhole_minus_iff {e : Sql.Expr} {i : Int} :
    (Sql.Expr.minus e).WritesWhole i ↔ ∃ j, e.WritesWhole j ∧ -j = i := by
  constructor
  · rintro ⟨⟩
    rename_i j h
    exact ⟨j, h, rfl⟩
  · rintro ⟨j, h, rfl⟩
    exact .minus h

/-- Whether no number in a literal or an operand has a sign of its own. -/
def Sql.Expr.Unsigned : Sql.Expr → Prop
  | .value (.number text _) => Decimal.Unsigned text.toList
  | .minus e | .nested e => e.Unsigned
  | _ => True

/-- The expression without the parentheses around it. -/
def Sql.Expr.unnested : Sql.Expr → Sql.Expr
  | .nested e => e.unnested
  | e => e

theorem Sql.Expr.Unsigned.unnested {e : Sql.Expr} (h : e.Unsigned) : e.unnested.Unsigned := by
  induction e using Sql.Expr.unnested.induct with
  | case1 e ih => exact ih h
  | case2 e hnested => rwa [Sql.Expr.unnested.eq_2 e hnested]

namespace Reader

open Sql

variable {D : Dialect} {items : List SelectItem} {e : Expr} {v : Value} {l : Literal}
  {content text : String} {i : Int}

/-! ## Signs before literals -/

theorem number_eq_int_iff (h : Decimal.Unsigned text.toList) :
    number text = .ok (.int i) ↔ text ≠ "" ∧ (∀ c ∈ text.toList, c.isDigit = true) ∧
      Decimal.digitsToNat text.toList < Nat.pow 2 63 ∧ Decimal.digitsToNat text.toList = i := by
  have hempty : text.toList ≠ [] ↔ text ≠ "" := by simp
  rw [← hempty, ← Decimal.readInt64_eq_some_iff h, number]
  by_cases hpoint : '.' ∈ text.toList
  · rw [if_pos hpoint]
    refine iff_of_false (by split <;> nofun) fun hread => ?_
    have hdigits := ((Decimal.readInt64_eq_some_iff h).mp hread).2.1
    exact absurd (hdigits '.' hpoint) (by decide)
  · rw [if_neg hpoint]
    cases Decimal.readInt64 text.toList <;> simp

theorem constant_eq_int_iff :
    constant D v = .ok (.int i) ↔
      ∃ text long, v = .number text long ∧ number text = .ok (.int i) := by
  cases v with
  | number text long => simp [constant]
  | _ => exact iff_of_false nofun nofun

theorem negated_eq_int_iff :
    negated? l = some (.int i) ↔ ∃ content j, l = .scalar content (.int j) ∧ -j = i := by
  unfold negated?
  split
  · rw [Option.some.injEq, Constant.int.injEq]
    refine ⟨fun h => ⟨_, _, rfl, h⟩, ?_⟩
    rintro ⟨content, j, ⟨⟩, h⟩
    exact h
  · exact iff_of_false nofun nofun
  · rename_i hint _
    exact iff_of_false nofun fun ⟨content, j, hl, _⟩ => hint content j hl

theorem literal_minus_eq_int_iff :
    literal D (.minus e) = .ok (.scalar content (.int i)) ↔
      content = D.text (.minus e) ∧
        ∃ inner j, literal D e = .ok (.scalar inner (.int j)) ∧ -j = i := by
  rw [literal]
  cases literal D e with
  | error cause => exact iff_of_false nofun nofun
  | ok l =>
    simp only [Except.ok.injEq, ← negated_eq_int_iff]
    cases negated? l with
    | none => exact iff_of_false nofun nofun
    | some c =>
      simp only [Except.ok.injEq, Literal.scalar.injEq, Option.some.injEq]
      exact and_congr_left fun _ => eq_comm

theorem literal_eq_int_iff (h : e.Unsigned) :
    literal D e = .ok (.scalar content (.int i)) ↔
      content = D.text e ∧ e.WritesWhole i ∧ i.natAbs < Nat.pow 2 63 := by
  induction e using literal.induct D generalizing content i with
  | case1 v =>
    have hread : literal D (.value v) = .ok (.scalar content (.int i)) ↔
        D.text (.value v) = content ∧ constant D v = .ok (.int i) := by
      rw [literal]
      cases constant D v <;> simp [Except.map]
    rw [hread, constant_eq_int_iff]
    constructor
    · rintro ⟨rfl, text, long, rfl, hnumber⟩
      obtain ⟨hne, hdigits, hlt, rfl⟩ := (number_eq_int_iff h).mp hnumber
      exact ⟨rfl, .digits hne hdigits, hlt⟩
    · rintro ⟨rfl, hwrites, hlt⟩
      cases hwrites with
      | digits hne hdigits =>
        exact ⟨rfl, _, _, rfl, (number_eq_int_iff h).mpr ⟨hne, hdigits, hlt, rfl⟩⟩
  | case2 inner _ _ ih | case3 inner _ _ _ _ ih | case4 inner _ _ _ ih =>
    rw [literal_minus_eq_int_iff, Expr.writesWhole_minus_iff]
    simp only [ih h]
    constructor
    · rintro ⟨rfl, _, j, ⟨rfl, hwrites, hlt⟩, rfl⟩
      exact ⟨rfl, ⟨j, hwrites, rfl⟩, by rwa [Int.natAbs_neg]⟩
    · rintro ⟨rfl, ⟨j, hwrites, rfl⟩, hlt⟩
      exact ⟨rfl, _, j, ⟨rfl, hwrites, by rwa [Int.natAbs_neg] at hlt⟩, rfl⟩
  | case5 e hvalue hminus =>
    have hread : literal D e = .error (.unsupported (.operand (D.text e))) := by
      unfold literal
      split
      · exact absurd rfl (hvalue _)
      · exact absurd rfl (hminus _)
      · rfl
    rw [hread]
    refine iff_of_false nofun fun ⟨_, hwrites, _⟩ => ?_
    cases hwrites with
    | digits => exact hvalue _ rfl
    | minus => exact hminus _ rfl

theorem operand_of_literal (h : literal D e = .ok l) : operand D items e = .ok (.literal l) := by
  cases e with
  | value | minus => exact congrArg (Except.map Operand.literal) h
  | _ => exact absurd h nofun

theorem operand_eq_literal_iff :
    operand D items e = .ok (.literal l) ↔ literal D e.unnested = .ok l := by
  induction e using Expr.unnested.induct with
  | case1 e ih => exact ih
  | case2 e hnested =>
    have hmap : (literal D e).map Operand.literal = .ok (.literal l) ↔ literal D e = .ok l := by
      cases literal D e <;> simp [Except.map]
    cases e with
    | nested e => exact absurd rfl (hnested e)
    | name parts => exact iff_of_false nofun nofun
    | call name args form =>
      refine iff_of_false (fun h => ?_) nofun
      obtain ⟨c, -, h⟩ := Outcome.bind_eq_ok.mp h
      obtain ⟨column, -, h⟩ := Outcome.bind_eq_ok.mp h
      cases h
    | _ => exact hmap

/-! ## Signs in 64 bits -/

theorem neg_in_64_bits (h : i.natAbs < Nat.pow 2 63) :
    i ≠ Int64.minValue.toInt ∧ (-Int64.ofInt i).toInt = -i := by
  have hvalue : Nat.pow 2 63 = 9223372036854775808 := rfl
  rw [Int64.toInt_minValue, ← Int64.ofInt_neg]
  exact ⟨by omega, Int64.toInt_ofInt_of_le (by omega) (by omega)⟩

/-- A literal whose numbers have no signs of their own is a whole number just when it writes that
number, which without its sign is below 2^63, and an operand may have it in parentheses. Such a number
is never the least one of 64 bits, and a minus sign before it gives the number that changing the sign
in 64 bits gives. -/
theorem literal_int_exact (D : Dialect) (items : List SelectItem) {e : Expr} (h : e.Unsigned) :
    (∀ content i, literal D e = .ok (.scalar content (.int i)) ↔
      content = D.text e ∧ e.WritesWhole i ∧ i.natAbs < Nat.pow 2 63) ∧
    (∀ content i, operand D items e = .ok (.literal (.scalar content (.int i))) ↔
      content = D.text e.unnested ∧ e.unnested.WritesWhole i ∧ i.natAbs < Nat.pow 2 63) ∧
    ∀ content i, literal D e = .ok (.scalar content (.int i)) →
      i ≠ Int64.minValue.toInt ∧
        literal D (.minus e) = .ok (.scalar (D.text (.minus e)) (.int (-Int64.ofInt i).toInt)) := by
  refine ⟨fun content i => literal_eq_int_iff h, fun content i => ?_, fun content i hread => ?_⟩
  · rw [operand_eq_literal_iff, literal_eq_int_iff h.unnested]
  · obtain ⟨hleast, hneg⟩ := neg_in_64_bits ((literal_eq_int_iff h).mp hread).2.2
    exact ⟨hleast, literal_minus_eq_int_iff.mpr ⟨rfl, content, i, hread, hneg.symm⟩⟩

/-- The greatest number that is read, behind three minus signs. -/
def leastAmount : Expr :=
  .minus (.minus (.minus (.value (.number "9223372036854775807" false))))

theorem literal_int_exact_leastAmount :
    operand .generic [] (.nested leastAmount) =
        .ok (.literal (.scalar "---9223372036854775807" (.int (-9223372036854775807)))) ∧
      literal .generic (.minus leastAmount) =
        .ok (.scalar "----9223372036854775807" (.int 9223372036854775807)) := by
  have hdigits : ∀ c ∈ "9223372036854775807".toList, c.isDigit = true :=
    List.all_eq_true.mp (by decide)
  have hunsigned : leastAmount.Unsigned := Decimal.unsigned_of_digits hdigits
  have hnested : (Expr.nested leastAmount).Unsigned := hunsigned
  have hwrites : leastAmount.WritesWhole (-9223372036854775807) :=
    .minus (.minus (.minus (.digits (by decide) hdigits)))
  have hliteral := ((literal_int_exact .generic [] hunsigned).1 _ _).mpr
    ⟨rfl, hwrites, by decide⟩
  exact ⟨((literal_int_exact .generic [] hnested).2.1 _ _).mpr ⟨rfl, hwrites, by decide⟩,
    ((literal_int_exact .generic [] hunsigned).2.2 _ _ hliteral).2⟩

end Reader

end JoinPlan
