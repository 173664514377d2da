import JoinPlan.Decimal.Double
import Mathlib.Order.Monotone.Basic
import Mathlib.Tactic.Ring

/-!
# Whole numbers as doubles

A double has 53 binary digits, so a whole number with more of them is rounded to a multiple of a power
of two. The order of the doubles is that of the rounded numbers. So it is that of the numbers
themselves up to 2 ^ 53, and beyond it no more than different numbers become equal.
-/

namespace JoinPlan.Double

/-! ## Rounding -/

section Rounding

variable {m n den : Nat}

theorem div_le_roundHalfEven (n den : Nat) : n / den ≤ roundHalfEven n den := by
  unfold roundHalfEven
  dsimp only
  split <;> omega

theorem roundHalfEven_le_succ (n den : Nat) : roundHalfEven n den ≤ n / den + 1 := by
  unfold roundHalfEven
  dsimp only
  split <;> omega

theorem roundHalfEven_mul (k : Nat) (hden : 0 < den) : roundHalfEven (k * den) den = k := by
  have hrest : k * den % den = 0 := Nat.mul_mod_left k den
  simp only [roundHalfEven, hrest, Nat.mul_div_cancel k hden]
  rw [if_neg (by omega)]

theorem roundHalfEven_mono (h : m ≤ n) : roundHalfEven m den ≤ roundHalfEven n den := by
  rcases (Nat.div_le_div_right h : m / den ≤ n / den).lt_or_eq with hquotient | hquotient
  · calc roundHalfEven m den
        ≤ m / den + 1 := roundHalfEven_le_succ m den
      _ ≤ n / den := hquotient
      _ ≤ roundHalfEven n den := div_le_roundHalfEven n den
  · have hrest : m % den ≤ n % den := by
      have hm := Nat.div_add_mod m den
      have hn := Nat.div_add_mod n den
      rw [hquotient] at hm
      omega
    simp only [roundHalfEven, hquotient]
    split <;> split <;> omega

end Rounding

/-! ## Whole numbers of 53 digits -/

/-- The unit in which a whole number has 53 binary digits. It is 1 when the number has fewer. -/
def wholeUnit (n : Nat) : Nat :=
  2 ^ (n.log2 - 52)

/-- The multiple of its unit that is nearest to a whole number. -/
def wholeNear (n : Nat) : Nat :=
  roundHalfEven n (wholeUnit n) * wholeUnit n

section WholeNear

variable {m n : Nat}

theorem wholeUnit_pos (n : Nat) : 0 < wholeUnit n :=
  Nat.two_pow_pos _

theorem wholeUnit_of_lt (h : n.log2 ≤ 52) : wholeUnit n = 1 := by
  rw [wholeUnit, Nat.sub_eq_zero_of_le h, Nat.pow_zero]

theorem mul_wholeUnit (h : 52 ≤ n.log2) (k : Nat) : 2 ^ (52 + k) * wholeUnit n = 2 ^ (n.log2 + k) := by
  rw [wholeUnit, ← Nat.pow_add]
  congr 1
  omega

theorem wholeNear_of_dvd (h : wholeUnit n ∣ n) : wholeNear n = n := by
  have hexact : n / wholeUnit n * wholeUnit n = n := Nat.div_mul_cancel h
  have hround : roundHalfEven n (wholeUnit n) = n / wholeUnit n := by
    calc roundHalfEven n (wholeUnit n)
        = roundHalfEven (n / wholeUnit n * wholeUnit n) (wholeUnit n) := by rw [hexact]
      _ = n / wholeUnit n := roundHalfEven_mul _ (wholeUnit_pos n)
  rw [wholeNear, hround, hexact]

theorem wholeNear_of_log2_le (h : n.log2 ≤ 52) : wholeNear n = n :=
  wholeNear_of_dvd (wholeUnit_of_lt h ▸ Nat.one_dvd n)

/-- Up to 2 ^ 53 no whole number is rounded. -/
theorem wholeNear_of_le (h : n ≤ 2 ^ 53) : wholeNear n = n := by
  rcases h.lt_or_eq with h | rfl
  · rcases Nat.eq_zero_or_pos n with rfl | hn
    · exact wholeNear_of_log2_le (by decide)
    · exact wholeNear_of_log2_le (Nat.le_of_lt_succ ((Nat.log2_lt hn.ne').mpr h))
  · exact wholeNear_of_dvd (by decide)

theorem two_pow_le_wholeNear (hn : n ≠ 0) : 2 ^ n.log2 ≤ wholeNear n := by
  rcases Nat.le_total n.log2 52 with hlog | hlog
  · rw [wholeNear_of_log2_le hlog]
    exact Nat.log2_self_le hn
  · have hunit : 2 ^ 52 * wholeUnit n = 2 ^ n.log2 := mul_wholeUnit hlog 0
    have hround : roundHalfEven (2 ^ 52 * wholeUnit n) (wholeUnit n) ≤ roundHalfEven n (wholeUnit n) :=
      roundHalfEven_mono (hunit ▸ Nat.log2_self_le hn)
    rw [roundHalfEven_mul _ (wholeUnit_pos n)] at hround
    calc 2 ^ n.log2
        = 2 ^ 52 * wholeUnit n := hunit.symm
      _ ≤ wholeNear n := Nat.mul_le_mul_right _ hround

theorem wholeNear_le_two_pow (n : Nat) : wholeNear n ≤ 2 ^ (n.log2 + 1) := by
  rcases Nat.le_total n.log2 52 with hlog | hlog
  · rw [wholeNear_of_log2_le hlog]
    exact Nat.lt_log2_self.le
  · have hunit : 2 ^ 53 * wholeUnit n = 2 ^ (n.log2 + 1) := mul_wholeUnit hlog 1
    have hround : roundHalfEven n (wholeUnit n) ≤ roundHalfEven (2 ^ 53 * wholeUnit n) (wholeUnit n) :=
      roundHalfEven_mono (hunit ▸ Nat.lt_log2_self.le)
    rw [roundHalfEven_mul _ (wholeUnit_pos n)] at hround
    calc wholeNear n
        ≤ 2 ^ 53 * wholeUnit n := Nat.mul_le_mul_right _ hround
      _ = 2 ^ (n.log2 + 1) := hunit

theorem wholeNear_pos (hn : n ≠ 0) : 0 < wholeNear n :=
  (Nat.two_pow_pos _).trans_le (two_pow_le_wholeNear hn)

theorem wholeNear_mono (h : m ≤ n) : wholeNear m ≤ wholeNear n := by
  rcases Nat.eq_zero_or_pos m with rfl | hm
  · exact Nat.zero_le _
  · have hn : n ≠ 0 := (hm.trans_le h).ne'
    have hlog : m.log2 ≤ n.log2 := (Nat.le_log2 hn).mpr ((Nat.log2_self_le hm.ne').trans h)
    rcases hlog.lt_or_eq with hlog | hlog
    · calc wholeNear m
          ≤ 2 ^ (m.log2 + 1) := wholeNear_le_two_pow m
        _ ≤ 2 ^ n.log2 := Nat.pow_le_pow_right Nat.two_pos hlog
        _ ≤ wholeNear n := two_pow_le_wholeNear hn
    · have hunit : wholeUnit m = wholeUnit n := by rw [wholeUnit, wholeUnit, hlog]
      rw [wholeNear, wholeNear, hunit]
      exact Nat.mul_le_mul_right _ (roundHalfEven_mono h)

end WholeNear

/-! ## The order of the bits -/

/-- A finite absolute value as a multiple of the least one above zero. -/
def leastUnits (magnitude : Nat) : Nat :=
  (units magnitude).1 * 2 ^ ((units magnitude).2 + 1074).toNat

theorem leastUnits_of_lt {magnitude : Nat} (h : magnitude < 2 ^ 52) :
    leastUnits magnitude = magnitude := by
  have hunits : units magnitude = (magnitude, -1074) := if_pos h
  rw [leastUnits, hunits]
  exact Nat.mul_one magnitude

theorem leastUnits_of_le {magnitude : Nat} (h : 2 ^ 52 ≤ magnitude) :
    leastUnits magnitude = (2 ^ 52 + magnitude % 2 ^ 52) * 2 ^ (magnitude / 2 ^ 52 - 1) := by
  have hunits : units magnitude =
      (2 ^ 52 + magnitude % 2 ^ 52, ((magnitude / 2 ^ 52 : Nat) : Int) - 1075) :=
    if_neg (Nat.not_lt.mpr h)
  rw [leastUnits, hunits]
  congr 2
  omega

/-- The bits of 53 digits are those of their exponent and the digits. The first digit counts one in
the exponent, and so does a carry beyond the digits. -/
theorem leastUnits_of_digits {exponent digits : Nat} (hlow : 2 ^ 52 ≤ digits)
    (hhigh : digits ≤ 2 ^ 53) : leastUnits (exponent * 2 ^ 52 + digits) = digits * 2 ^ exponent := by
  rw [leastUnits_of_le (by omega)]
  rcases hhigh.lt_or_eq with hdigits | hcarry
  · have hrest : (exponent * 2 ^ 52 + digits) % 2 ^ 52 = digits - 2 ^ 52 := by omega
    have hexponent : (exponent * 2 ^ 52 + digits) / 2 ^ 52 - 1 = exponent := by omega
    rw [hrest, hexponent, Nat.add_sub_cancel' hlow]
  · have hrest : (exponent * 2 ^ 52 + digits) % 2 ^ 52 = 0 := by omega
    have hexponent : (exponent * 2 ^ 52 + digits) / 2 ^ 52 - 1 = exponent + 1 := by omega
    rw [hrest, hexponent, hcarry]
    ring

theorem exists_digits {magnitude : Nat} (h : 2 ^ 52 ≤ magnitude) :
    ∃ exponent digits, 2 ^ 52 ≤ digits ∧ digits < 2 ^ 53 ∧
      magnitude = exponent * 2 ^ 52 + digits :=
  ⟨magnitude / 2 ^ 52 - 1, 2 ^ 52 + magnitude % 2 ^ 52, by omega, by omega, by omega⟩

/-- The bits are in the order of the absolute values. -/
theorem leastUnits_strictMono : StrictMono leastUnits := by
  refine strictMono_nat_of_lt_succ fun magnitude => ?_
  rcases Nat.lt_or_ge magnitude (2 ^ 52) with hsmall | hlarge
  · have hnext : leastUnits (magnitude + 1) = magnitude + 1 := by
      rcases Nat.lt_or_ge (magnitude + 1) (2 ^ 52) with hnext | hnext
      · exact leastUnits_of_lt hnext
      · have hfirst : leastUnits (0 * 2 ^ 52 + (magnitude + 1)) = (magnitude + 1) * 2 ^ 0 :=
          leastUnits_of_digits hnext (by omega)
        simpa using hfirst
    rw [leastUnits_of_lt hsmall, hnext]
    exact Nat.lt_succ_self magnitude
  · obtain ⟨exponent, digits, hlow, hhigh, rfl⟩ := exists_digits hlarge
    rw [Nat.add_assoc, leastUnits_of_digits hlow hhigh.le,
      leastUnits_of_digits (Nat.le_succ_of_le hlow) hhigh]
    exact Nat.mul_lt_mul_of_pos_right (Nat.lt_succ_self digits) (Nat.two_pow_pos exponent)

/-! ## The double of a whole number -/

section Nearest

variable {m n : Nat}

/-- The digits of the double of a whole number. -/
def wholeDigits (n : Nat) : Nat :=
  roundHalfEven (n * 2 ^ (52 - n.log2)) (wholeUnit n)

theorem wholeDigits_mul (n : Nat) : wholeDigits n * 2 ^ n.log2 = wholeNear n * 2 ^ 52 := by
  rcases Nat.le_total n.log2 52 with hlog | hlog
  · have hone : roundHalfEven (n * 2 ^ (52 - n.log2)) 1 = n * 2 ^ (52 - n.log2) := by
      simpa using roundHalfEven_mul (n * 2 ^ (52 - n.log2)) Nat.one_pos
    rw [wholeDigits, wholeUnit_of_lt hlog, hone, wholeNear_of_log2_le hlog, Nat.mul_assoc,
      ← Nat.pow_add, Nat.sub_add_cancel hlog]
  · have hunit : 2 ^ 52 * wholeUnit n = 2 ^ n.log2 := mul_wholeUnit hlog 0
    rw [wholeDigits, Nat.sub_eq_zero_of_le hlog, Nat.pow_zero, Nat.mul_one, wholeNear, ← hunit]
    ring

theorem wholeDigits_bounds (hn : n ≠ 0) : 2 ^ 52 ≤ wholeDigits n ∧ wholeDigits n ≤ 2 ^ 53 := by
  have hpos : 0 < 2 ^ n.log2 := Nat.two_pow_pos _
  constructor
  · apply Nat.le_of_mul_le_mul_right _ hpos
    rw [wholeDigits_mul n, Nat.mul_comm]
    exact Nat.mul_le_mul_right _ (two_pow_le_wholeNear hn)
  · apply Nat.le_of_mul_le_mul_right _ hpos
    rw [wholeDigits_mul n]
    calc wholeNear n * 2 ^ 52
        ≤ 2 ^ (n.log2 + 1) * 2 ^ 52 := Nat.mul_le_mul_right _ (wholeNear_le_two_pow n)
      _ = 2 ^ 53 * 2 ^ n.log2 := by ring

theorem scaled_one (n : Nat) :
    scaled n 1 ((n.log2 : Int) - 52) = (n * 2 ^ (52 - n.log2), wholeUnit n) := by
  have hdown : (-((n.log2 : Int) - 52)).toNat = 52 - n.log2 := by omega
  have hup : ((n.log2 : Int) - 52).toNat = n.log2 - 52 := by omega
  rw [scaled, hdown, hup, Nat.one_mul]
  rfl

theorem unitExponent_one (hn : n ≠ 0) : unitExponent n 1 = (n.log2 : Int) - 52 := by
  have hguess : (n.log2 : Int) - (Nat.log2 1 : Nat) - 52 = (n.log2 : Int) - 52 := by
    rw [show Nat.log2 1 = 0 from by decide]
    omega
  have hdigits : 2 ^ 52 ≤ n * 2 ^ (52 - n.log2) / wholeUnit n := by
    rw [Nat.le_div_iff_mul_le (wholeUnit_pos n)]
    calc 2 ^ 52 * wholeUnit n
        = 2 ^ n.log2 * 2 ^ (52 - n.log2) := by
          rw [wholeUnit, ← Nat.pow_add, ← Nat.pow_add]
          congr 1
          omega
      _ ≤ n * 2 ^ (52 - n.log2) := Nat.mul_le_mul_right _ (Nat.log2_self_le hn)
  rw [unitExponent, hguess]
  simp only [scaled_one, Nat.pow_eq, if_neg (Nat.not_lt.mpr hdigits)]
  omega

theorem nearest_one (hn : n ≠ 0) (hsmall : n < 2 ^ 64) :
    nearest n 1 = (n.log2 + 1022) * 2 ^ 52 + wholeDigits n := by
  have hlog : n.log2 < 64 := (Nat.log2_lt hn).mpr hsmall
  have hexponent : ((n.log2 : Int) - 52 + 1074).toNat = n.log2 + 1022 := by omega
  have hfinite : (n.log2 + 1022) * 2 ^ 52 + wholeDigits n ≤ infinite := by
    have hdigits := (wholeDigits_bounds hn).2
    have hinfinite : infinite = 2047 * 2 ^ 52 := rfl
    omega
  rw [nearest, if_neg hn]
  simp only [unitExponent_one hn, scaled_one, hexponent]
  exact Nat.min_eq_right hfinite

theorem leastUnits_nearest (hsmall : n < 2 ^ 64) :
    leastUnits (nearest n 1) = wholeNear n * 2 ^ 52 * 2 ^ 1022 := by
  rcases Nat.eq_zero_or_pos n with rfl | hn
  · rw [nearest, if_pos rfl, leastUnits_of_lt (by decide), wholeNear_of_le (Nat.zero_le _),
      Nat.zero_mul, Nat.zero_mul]
  · obtain ⟨hlow, hhigh⟩ := wholeDigits_bounds hn.ne'
    rw [nearest_one hn.ne' hsmall, leastUnits_of_digits hlow hhigh, pow_add, ← Nat.mul_assoc,
      wholeDigits_mul]

theorem mul_two_pow_lt_iff (k : Nat) : m * 2 ^ k < n * 2 ^ k ↔ m < n :=
  Nat.mul_lt_mul_right (Nat.two_pow_pos k)

theorem nearest_lt_iff (hm : m < 2 ^ 64) (hn : n < 2 ^ 64) :
    nearest m 1 < nearest n 1 ↔ wholeNear m < wholeNear n := by
  rw [← leastUnits_strictMono.lt_iff_lt, leastUnits_nearest hm, leastUnits_nearest hn,
    mul_two_pow_lt_iff, mul_two_pow_lt_iff]

end Nearest

/-! ## Signs -/

/-- The whole number whose double is that of the given one. -/
def intNear (i : Int) : Int :=
  if i < 0 then -(wholeNear i.natAbs : Int) else wholeNear i.natAbs

section Signs

variable {a b i : Int}

theorem nearest_le_infinite (num den : Nat) : nearest num den ≤ infinite := by
  rw [nearest]
  split
  · exact Nat.zero_le _
  · exact Nat.min_le_left _ _

theorem rank_ofMagnitude {negative : Bool} {magnitude : Nat} (h : magnitude < 2 ^ 63) :
    (ofMagnitude negative magnitude).rank =
      if negative then -(magnitude : Int) else magnitude := by
  have hpow : Nat.pow 2 63 = 2 ^ 63 := rfl
  have hsmall : magnitude < Nat.pow 2 63 := h
  have hbits : (ofMagnitude negative magnitude).bits.toNat =
      if negative then Nat.pow 2 63 + magnitude else magnitude :=
    UInt64.toNat_ofNat_of_lt (by rw [UInt64.size]; split <;> omega)
  rw [rank, isNegative, Double.magnitude, hbits]
  cases negative with
  | true =>
    have hrest : (Nat.pow 2 63 + magnitude) % Nat.pow 2 63 = magnitude := by
      rw [Nat.add_mod_left, Nat.mod_eq_of_lt hsmall]
    simp [hrest]
  | false =>
    have hrest : magnitude % Nat.pow 2 63 = magnitude := Nat.mod_eq_of_lt hsmall
    simp [hrest, Nat.not_le.mpr hsmall]

theorem rank_ofInt (i : Int) :
    (ofInt i).rank = if i < 0 then -(nearest i.natAbs 1 : Int) else nearest i.natAbs 1 := by
  have hfinite : nearest i.natAbs 1 < 2 ^ 63 :=
    (nearest_le_infinite _ _).trans_lt (by decide)
  rw [ofInt, ofRatio, rank_ofMagnitude hfinite]
  simp only [decide_eq_true_eq]

theorem rank_ofInt_lt_iff (ha : a.natAbs < 2 ^ 64) (hb : b.natAbs < 2 ^ 64) :
    (ofInt a).rank < (ofInt b).rank ↔ intNear a < intNear b := by
  have hab := nearest_lt_iff ha hb
  have hba := nearest_lt_iff hb ha
  have ha0 := nearest_lt_iff (m := 0) (by decide) ha
  have hb0 := nearest_lt_iff (m := 0) (by decide) hb
  rw [nearest, if_pos rfl, wholeNear_of_le (Nat.zero_le _)] at ha0 hb0
  -- a number below zero is near one below zero
  have hnegative : ∀ i : Int, i < 0 → 0 < wholeNear i.natAbs := fun i hi => wholeNear_pos (by omega)
  have haneg := hnegative a
  have hbneg := hnegative b
  rw [rank_ofInt, rank_ofInt, intNear, intNear]
  split <;> split <;> omega

theorem compare_ofInt (ha : a.natAbs < 2 ^ 64) (hb : b.natAbs < 2 ^ 64) :
    (ofInt a).compare (ofInt b) = Ord.compare (intNear a) (intNear b) := by
  have hlt := rank_ofInt_lt_iff ha hb
  have hgt := rank_ofInt_lt_iff hb ha
  have heq : (ofInt a).rank = (ofInt b).rank ↔ intNear a = intNear b := by omega
  simp only [Double.compare, Ord.compare, compareOfLessAndEq, hlt, heq]

/-! ## Rounded and exact order -/

theorem intNear_mono (h : a ≤ b) : intNear a ≤ intNear b := by
  have hup : a.natAbs ≤ b.natAbs → wholeNear a.natAbs ≤ wholeNear b.natAbs := wholeNear_mono
  have hdown : b.natAbs ≤ a.natAbs → wholeNear b.natAbs ≤ wholeNear a.natAbs := wholeNear_mono
  rw [intNear, intNear]
  split <;> split <;> omega

theorem intNear_of_le (h : i.natAbs ≤ 2 ^ 53) : intNear i = i := by
  rw [intNear, wholeNear_of_le h]
  split <;> omega

/-- Two numbers are told apart when one of them has no more than 53 digits. -/
theorem intNear_lt (h : a < b) (hsmall : a.natAbs < 2 ^ 53 ∨ b.natAbs < 2 ^ 53) :
    intNear a < intNear b := by
  rcases hsmall with hsmall | hsmall
  · calc intNear a
        = a := intNear_of_le hsmall.le
      _ < a + 1 := Int.lt_succ a
      _ = intNear (a + 1) := (intNear_of_le (by omega)).symm
      _ ≤ intNear b := intNear_mono h
  · calc intNear a
        ≤ intNear (b - 1) := intNear_mono (by omega)
      _ = b - 1 := intNear_of_le (by omega)
      _ < b := Int.sub_lt_self b Int.one_pos
      _ = intNear b := (intNear_of_le hsmall.le).symm

end Signs

end JoinPlan.Double
