import JoinPlan.Proofs.Decimal.WholeNumbers
import JoinPlan.Proofs.Predicate.Membership

/-!
# Comparisons of whole numbers

Numbers are compared as doubles. So a comparison of two whole numbers is right when their doubles
differ, and else it answers what it answers for equal numbers. Numbers of no more than 53 binary
digits have doubles of their own.
-/

namespace JoinPlan

/-- Whether two whole numbers are as a comparison asks. -/
def CompareOp.holds (op : CompareOp) (a b : Int) : Bool :=
  match op with
  | .eq | .isIn => decide (a = b)
  | .notEq | .notIn => decide (a ≠ b)
  | .lt => decide (a < b)
  | .ltEq => decide (a ≤ b)
  | .gt => decide (a > b)
  | .gtEq => decide (a ≥ b)

namespace CompareOp

variable {a b a' b' : Int}

/-- A comparison asks for no more than the order of the numbers. -/
theorem holds_congr (op : CompareOp) (hlt : a < b ↔ a' < b') (hgt : b < a ↔ b' < a') :
    op.holds a b = op.holds a' b' := by
  cases op <;> simp only [holds, decide_eq_decide] <;> omega

theorem ofOrdering_compare (op : CompareOp) (a b : Int) :
    op.ofOrdering (Ord.compare a b) = op.holds a b := by
  rw [Bool.eq_iff_iff]
  rcases Int.lt_trichotomy a b with h | rfl | h
  · have horder : Ord.compare a b = .lt := Int.compare_eq_lt.mpr h
    rw [horder]
    cases op <;> simp [ofOrdering, holds] <;> omega
  · have horder : Ord.compare a a = .eq := Int.compare_eq_eq.mpr rfl
    rw [horder]
    cases op <;> simp [ofOrdering, holds]
  · have horder : Ord.compare a b = .gt := Int.compare_eq_gt.mpr h
    rw [horder]
    cases op <;> simp [ofOrdering, holds] <;> omega

end CompareOp

namespace Predicate

variable {row : Row} {c : Column} {op : CompareOp} {a b : Int}

theorem evaluate_int_eq_intNear (content : String) (hop : ¬(op = .isIn ∨ op = .notIn))
    (hrow : row.get? c.text = some (.int a)) (ha : a.natAbs < 2 ^ 64) (hb : b.natAbs < 2 ^ 64) :
    (compare (.column c) op (.literal (.scalar content (.int b)))).evaluate row =
      .ok (op.holds (Double.intNear a) (Double.intNear b)) := by
  have hleft : (Operand.column c).value row = .ok (.int a) := by
    rw [Operand.value, Row.valueAt, hrow, Option.getD_some]
  have hvalues : op.onNullable (.int a) (.int b) =
      .ok (op.ofOrdering ((Double.ofInt a).compare (Double.ofInt b))) := rfl
  rw [evaluate_compare_literal hop hleft rfl, Constant.toJson, hvalues,
    Double.compare_ofInt ha hb, CompareOp.ofOrdering_compare]

/-- A comparison of two whole numbers of 64 bits has an answer. Where the doubles of the numbers
differ it is right, and where they are one it is the answer for equal numbers. A number below
2 ^ 53 is compared rightly with every other. -/
theorem evaluate_int (content : String) (hop : ¬(op = .isIn ∨ op = .notIn))
    (hrow : row.get? c.text = some (.int a)) (ha : a.natAbs < 2 ^ 64) (hb : b.natAbs < 2 ^ 64) :
    (Double.intNear a ≠ Double.intNear b →
      (compare (.column c) op (.literal (.scalar content (.int b)))).evaluate row =
        .ok (op.holds a b)) ∧
    (Double.intNear a = Double.intNear b →
      (compare (.column c) op (.literal (.scalar content (.int b)))).evaluate row =
        .ok (op.holds a a)) ∧
    (a.natAbs < 2 ^ 53 ∨ b.natAbs < 2 ^ 53 →
      (compare (.column c) op (.literal (.scalar content (.int b)))).evaluate row =
        .ok (op.holds a b)) := by
  rw [evaluate_int_eq_intNear content hop hrow ha hb]
  simp only [Except.ok.injEq]
  refine ⟨fun hne => ?_, fun heq => ?_, fun hsmall => ?_⟩
  · have hle : a ≤ b → Double.intNear a ≤ Double.intNear b := Double.intNear_mono
    have hge : b ≤ a → Double.intNear b ≤ Double.intNear a := Double.intNear_mono
    exact op.holds_congr (by omega) (by omega)
  · exact op.holds_congr (by omega) (by omega)
  · have hlt : a < b → Double.intNear a < Double.intNear b := fun h => Double.intNear_lt h hsmall
    have hgt : b < a → Double.intNear b < Double.intNear a := fun h =>
      Double.intNear_lt h hsmall.symm
    have heq : a = b → Double.intNear a = Double.intNear b := congrArg Double.intNear
    exact op.holds_congr (by omega) (by omega)

/-! ### An identifier above 2 ^ 53 -/

def identified (x : Int) : Row :=
  Dict.ofList [("x", .int x)]

def xAgainst (op : CompareOp) (content : String) (b : Int) : Predicate :=
  .compare (.column (.bare "x")) op (.literal (.scalar content (.int b)))

/-- The double of 2 ^ 53 + 1 is that of 2 ^ 53. The numbers 2 ^ 53 + 2 and 7 have others. -/
theorem evaluate_int_above :
    (xAgainst .lt "9007199254740994" 9007199254740994).evaluate (identified 9007199254740993) =
        .ok true ∧
      (xAgainst .gt "9007199254740992" 9007199254740992).evaluate (identified 9007199254740993) =
        .ok false ∧
      (xAgainst .gtEq "7" 7).evaluate (identified 9007199254740993) = .ok true := by
  have hrow : (identified 9007199254740993).get? (Column.bare "x").text =
      some (.int 9007199254740993) := rfl
  exact ⟨(evaluate_int _ (by decide) hrow (by decide) (by decide)).1 (by decide),
    (evaluate_int _ (by decide) hrow (by decide) (by decide)).2.1 (by decide),
    (evaluate_int _ (by decide) hrow (by decide) (by decide)).2.2 (by decide)⟩

/-- The row of 2 ^ 53 satisfies an equality with 2 ^ 53 + 1. -/
theorem evaluate_int_equal_above :
    (xAgainst .eq "9007199254740993" 9007199254740993).evaluate (identified 9007199254740992) =
        .ok true ∧
      CompareOp.eq.holds 9007199254740992 9007199254740993 = false :=
  ⟨rfl, rfl⟩

end Predicate

end JoinPlan
