/-!
# Binary floating-point numbers

A double is the 64 bits of an IEEE 754 binary64 number: a sign, eleven bits of exponent and 52 bits
of fraction. Everything here is exact arithmetic on natural numbers. `Double.ofRatio` is the number
nearest to a quotient, and `Double.compare` is the order of the values.
-/

namespace JoinPlan

structure Double where
  bits : UInt64
deriving DecidableEq, Repr, Inhabited

namespace Double

/-- The bits without the sign. They are in the order of the absolute values. -/
def magnitude (d : Double) : Nat :=
  d.bits.toNat % Nat.pow 2 63

def isNegative (d : Double) : Bool :=
  decide (Nat.pow 2 63 ≤ d.bits.toNat)

/-- The magnitude of infinity, above that of every finite number. -/
def infinite : Nat := 0x7FF * Nat.pow 2 52

def isFinite (d : Double) : Bool :=
  decide (d.magnitude < infinite)

def ofMagnitude (negative : Bool) (magnitude : Nat) : Double :=
  ⟨UInt64.ofNat (if negative then Nat.pow 2 63 + magnitude else magnitude)⟩

/-- The number with the other sign; zero has two signs. -/
def neg (d : Double) : Double :=
  ofMagnitude (!d.isNegative) d.magnitude

/-- A finite absolute value as a whole number of units, and the exponent of two of the unit. -/
def units (magnitude : Nat) : Nat × Int :=
  if magnitude < Nat.pow 2 52 then (magnitude, -1074)
  else (Nat.pow 2 52 + magnitude % Nat.pow 2 52, (magnitude / Nat.pow 2 52 : Nat) - 1075)

/-- The quotient rounded to the nearest whole number, and of two to the even one. -/
def roundHalfEven (num den : Nat) : Nat :=
  let quotient := num / den
  let double := 2 * (num % den)
  if den < double ∨ (double = den ∧ quotient % 2 = 1) then quotient + 1 else quotient

/-- `num / den / 2 ^ exponent` as a quotient of natural numbers. -/
def scaled (num den : Nat) (exponent : Int) : Nat × Nat :=
  (num * Nat.pow 2 (-exponent).toNat, den * Nat.pow 2 exponent.toNat)

/-- The exponent of the unit in which the quotient has 53 binary digits, or the least unit. -/
def unitExponent (num den : Nat) : Int :=
  let guess : Int := (num.log2 : Int) - den.log2 - 52
  let (n, d) := scaled num den guess
  max (-1074) (if n / d < Nat.pow 2 52 then guess - 1 else guess)

/-- The magnitude nearest to a quotient. From half a unit above the greatest finite number on it is
infinity. -/
def nearest (num den : Nat) : Nat :=
  if num = 0 then 0
  else
    let exponent := unitExponent num den
    let (n, d) := scaled num den exponent
    min infinite ((exponent + 1074).toNat * Nat.pow 2 52 + roundHalfEven n d)

/-- The number nearest to `± num / den`. -/
def ofRatio (negative : Bool) (num den : Nat) : Double :=
  ofMagnitude negative (nearest num den)

def ofInt (i : Int) : Double :=
  ofRatio (decide (i < 0)) i.natAbs 1

/-- The number nearest to `± digits * 10 ^ exponent`. Exponents far beyond the range of a double are
not raised to a power first. -/
def ofDecimal (negative : Bool) (digits : Nat) (exponent : Int) : Double :=
  if 400 < exponent then ofMagnitude negative (if digits = 0 then 0 else infinite)
  else if exponent < -(digits.log2 : Int) - 400 then ofMagnitude negative 0
  else ofRatio negative (digits * Nat.pow 10 exponent.toNat) (Nat.pow 10 (-exponent).toNat)

/-- The place of a number in the order of the values, in which the two zeros are one. -/
def rank (d : Double) : Int :=
  if d.isNegative then -(d.magnitude : Int) else d.magnitude

def compare (a b : Double) : Ordering :=
  Ord.compare a.rank b.rank

end Double

end JoinPlan
