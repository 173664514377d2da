import JoinPlan.Decimal.Double

/-!
# The shortest decimal of a double

Of the decimals that read back as a double, `Shortest.decimal` takes one with the fewest digits, and
of those the nearest. `Double.text` writes it out.
-/

namespace JoinPlan

namespace Shortest

/-- The decimals that read back as a number lie between these two multiples of a quarter of its
unit. The gap below a power of two is half as wide. -/
def interval (significand : Nat) (exponent : Int) : Nat × Nat :=
  let below := if significand = Nat.pow 2 52 ∧ -1074 < exponent then 1 else 2
  (4 * significand - below, 4 * significand + 2)

/-- The order of `a * 10 ^ p` and `b * 2 ^ q`. -/
def compareScaled (a : Nat) (p : Int) (b : Nat) (q : Int) : Ordering :=
  compare (a * Nat.pow 10 p.toNat * Nat.pow 2 (-q).toNat) (b * Nat.pow 2 q.toNat * Nat.pow 10 (-p).toNat)

/-- Whether a decimal reads back as `significand * 2 ^ exponent`. The ends of the interval do when
the significand is even. -/
def readsBack (significand : Nat) (exponent : Int) (digits : Nat) (power : Int) : Bool :=
  let (low, high) := interval significand exponent
  let ends := significand % 2 == 0
  let above := compareScaled digits power low (exponent - 2)
  let below := compareScaled digits power high (exponent - 2)
  (above == .gt || (ends && above == .eq)) && (below == .lt || (ends && below == .eq))

/-- The exponent of ten of the first digit of `num / den`. -/
def leadingPower (num den : Nat) : Int :=
  let guess : Int := (Nat.toDigits 10 num).length - (Nat.toDigits 10 den).length
  if den * Nat.pow 10 guess.toNat ≤ num * Nat.pow 10 (-guess).toNat then guess else guess - 1

/-- The decimal with the given number of digits that reads back, if there is one, and of two the
nearer. -/
def withDigits (significand : Nat) (exponent : Int) (count : Nat) : Option (Nat × Int) :=
  let num := significand * Nat.pow 2 exponent.toNat
  let den := Nat.pow 2 (-exponent).toNat
  let power := leadingPower num den - count + 1
  let (n, d) := (num * Nat.pow 10 (-power).toNat, den * Nat.pow 10 power.toNat)
  let floor := n / d
  let rest := 2 * (n % d)
  match readsBack significand exponent floor power, readsBack significand exponent (floor + 1) power with
  | true, true =>
    some (if rest < d ∨ (rest = d ∧ floor % 2 = 0) then (floor, power) else (floor + 1, power))
  | true, false => some (floor, power)
  | false, true => some (floor + 1, power)
  | false, false => none

/-- The decimal of a positive number: its digits and the exponent of ten of the last one. Seventeen
digits are enough for every number. Only a nine that is rounded up leaves a zero at the end. -/
def decimal (significand : Nat) (exponent : Int) : Nat × Int :=
  let (digits, power) :=
    ((List.range' 1 17).findSome? (withDigits significand exponent)).getD (0, 0)
  if digits % 10 = 0 then (digits / 10, power + 1) else (digits, power)

/-- Where the point stands in a number as text: it is written out while the exponent of ten of the
first digit is between the two bounds, and else moved behind the first digit. -/
structure Layout where
  least : Int
  greatest : Int

/-- Numbers of JSON texts. -/
def layout : Layout := ⟨-5, 15⟩

/-- A decimal with its point in place: `1.5`, `100000.0`, `0.00001`. -/
def plain (digits : List Char) (leading : Int) : List Char :=
  if leading < 0 then '0' :: '.' :: List.replicate (-leading - 1).toNat '0' ++ digits
  else
    let whole := leading.toNat + 1
    let fraction := digits.drop whole
    digits.take whole ++ List.replicate (whole - digits.length) '0' ++
      '.' :: (if fraction.isEmpty then ['0'] else fraction)

/-- A decimal with an exponent: `1e+16`, `1.5e+17`, `1e-6`. -/
def scientific (digits : List Char) (leading : Int) : List Char :=
  let fraction := digits.drop 1
  digits.take 1 ++ (if fraction.isEmpty then [] else '.' :: fraction) ++
    'e' :: (if leading < 0 then '-' else '+') :: Nat.toDigits 10 leading.natAbs

def Layout.write (l : Layout) (digits : List Char) (leading : Int) : List Char :=
  if l.least ≤ leading ∧ leading ≤ l.greatest then plain digits leading else scientific digits leading

end Shortest

/-- A finite number as text. -/
def Double.text (d : Double) : String :=
  let sign := if d.isNegative then ['-'] else []
  if d.magnitude = 0 then String.ofList (sign ++ ['0', '.', '0'])
  else
    let (significand, exponent) := Double.units d.magnitude
    let (number, power) := Shortest.decimal significand exponent
    let digits := Nat.toDigits 10 number
    String.ofList (sign ++ Shortest.layout.write digits (power + digits.length - 1))

end JoinPlan
