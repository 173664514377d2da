import JoinPlan.Decimal.Double

/-!
# Reading decimals

A decimal number as statements and JSON texts write it: digits, a point and an exponent, where either
side of the point may be empty.
-/

namespace JoinPlan

namespace Decimal

/-- The number that a list of decimal digits writes. -/
def digitsToNat (ds : List Char) : Nat :=
  ds.foldl (fun n d => 10 * n + (d.toNat - '0'.toNat)) 0

/-- A whole number, which may have a sign. -/
def readInt : List Char → Option Int
  | '-' :: ds => if ds ≠ [] ∧ ds.all Char.isDigit then some (-(digitsToNat ds : Int)) else none
  | '+' :: ds => if ds ≠ [] ∧ ds.all Char.isDigit then some (digitsToNat ds) else none
  | ds => if ds ≠ [] ∧ ds.all Char.isDigit then some (digitsToNat ds) else none

/-- A whole number of 64 bits, which may have a sign. -/
def readInt64 (cs : List Char) : Option Int :=
  (readInt cs).filter fun i => -(Nat.pow 2 63 : Int) ≤ i ∧ i < Nat.pow 2 63

end Decimal

/-- The double nearest to an unsigned decimal, with the sign given beside it. -/
def Double.ofText? (negative : Bool) (cs : List Char) : Option Double :=
  let whole := cs.takeWhile Char.isDigit
  let afterWhole := cs.dropWhile Char.isDigit
  let (fraction, rest) :=
    match afterWhole with
    | '.' :: r => (r.takeWhile Char.isDigit, r.dropWhile Char.isDigit)
    | r => ([], r)
  if whole.isEmpty && fraction.isEmpty then none
  else
    let number := Decimal.digitsToNat (whole ++ fraction)
    match rest with
    | [] => some (Double.ofDecimal negative number (-(fraction.length : Int)))
    | e :: r =>
      if e = 'e' ∨ e = 'E' then
        (Decimal.readInt r).map fun x => Double.ofDecimal negative number (x - fraction.length)
      else none

/-- The double nearest to a decimal, which may have a sign. -/
def Double.ofSignedText? : List Char → Option Double
  | '-' :: cs => ofText? true cs
  | '+' :: cs => ofText? false cs
  | cs => ofText? false cs

end JoinPlan
