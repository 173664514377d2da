import JoinPlan.Decimal.Reader

/-!
# Digits of whole numbers

Digits that write a number are the digits of that number, behind any number of zeros.
-/

namespace JoinPlan.Decimal

theorem toNat_of_isDigit {c : Char} (h : c.isDigit = true) : 0x30 ≤ c.toNat ∧ c.toNat ≤ 0x39 := by
  simpa [Char.isDigit, UInt32.le_iff_toNat_le] using h

theorem digitChar_of_isDigit {c : Char} (h : c.isDigit = true) :
    Nat.digitChar (c.toNat - '0'.toNat) = c := by
  have hbounds := toNat_of_isDigit h
  have hzero : '0'.toNat = 48 := rfl
  rw [← Char.toNat_inj, Nat.toNat_digitChar_of_lt_ten (by omega)]
  omega

theorem isDigit_toDigits {n : Nat} {c : Char} (h : c ∈ Nat.toDigits 10 n) : c.isDigit = true :=
  Nat.isDigit_of_mem_toDigits (by decide) (by decide) h

theorem toList_toString (n : Nat) :
    ∃ d ds, (toString n).toList = d :: ds ∧ ∀ c ∈ d :: ds, c.isDigit = true := by
  rw [Nat.toString_eq_ofList_toDigits, String.toList_ofList]
  cases h : Nat.toDigits 10 n with
  | nil => exact absurd h Nat.toDigits_ne_nil
  | cons d ds =>
    refine ⟨d, ds, rfl, fun c hc => ?_⟩
    rw [← h] at hc
    exact isDigit_toDigits hc

theorem digitsToNat_toString (n : Nat) : digitsToNat (toString n).toList = n := by
  rw [Nat.toString_eq_ofList_toDigits, String.toList_ofList]
  exact Nat.ofDigitChars_ten_toDigits

theorem digitsToNat_zeros_append (zeros : Nat) (ds : List Char) :
    digitsToNat (List.replicate zeros '0' ++ ds) = digitsToNat ds := by
  induction zeros with
  | zero => rfl
  | succ zeros ih => exact ih

/-- Digits behind those of a number that is not zero make up the digits of a greater number. -/
theorem toDigits_append {n : Nat} (hn : 0 < n) {ds : List Char} (h : ∀ c ∈ ds, c.isDigit = true) :
    Nat.toDigits 10 n ++ ds = Nat.toDigits 10 (Nat.ofDigitChars 10 ds n) := by
  induction ds generalizing n with
  | nil => exact List.append_nil _
  | cons d ds ih =>
    rw [List.forall_mem_cons] at h
    have hbounds := toNat_of_isDigit h.1
    have hlt : d.toNat - '0'.toNat < 10 := by
      have hzero : '0'.toNat = 48 := rfl
      omega
    have hfirst := Nat.toDigits_append_toDigits (by decide) hn hlt
    rw [Nat.toDigits_of_lt_base hlt, digitChar_of_isDigit h.1] at hfirst
    rw [List.append_cons, hfirst, Nat.ofDigitChars_cons]
    exact ih (by omega) h.2

theorem exists_zeros_append_toDigits {ds : List Char} (hne : ds ≠ [])
    (h : ∀ c ∈ ds, c.isDigit = true) :
    ∃ zeros, ds = List.replicate zeros '0' ++ Nat.toDigits 10 (digitsToNat ds) := by
  induction ds with
  | nil => exact absurd rfl hne
  | cons d ds ih =>
    rw [List.forall_mem_cons] at h
    by_cases hzero : d = '0'
    · subst hzero
      by_cases hds : ds = []
      · exact ⟨0, by rw [hds]; rfl⟩
      · obtain ⟨zeros, hdigits⟩ := ih hds h.2
        exact ⟨zeros + 1, congrArg ('0' :: ·) hdigits⟩
    · -- The first digit is the first of the number, since it is no zero.
      have hbounds := toNat_of_isDigit h.1
      have hvalue : '0'.toNat = 48 := rfl
      have hpos : 0 < d.toNat - '0'.toNat := by
        have hne : d.toNat ≠ '0'.toNat := mt Char.toNat_inj.mp hzero
        omega
      have hfirst := toDigits_append hpos h.2
      rw [Nat.toDigits_of_lt_base (by omega), digitChar_of_isDigit h.1] at hfirst
      refine ⟨0, hfirst.trans ?_⟩
      simp [digitsToNat, Nat.ofDigitChars]

/-! ## Numbers without signs -/

/-- Whether a text does not start with a sign. -/
def Unsigned (cs : List Char) : Prop :=
  ∀ c ∈ cs.head?, c ≠ '-' ∧ c ≠ '+'

theorem unsigned_of_digits {cs : List Char} (h : ∀ c ∈ cs, c.isDigit = true) : Unsigned cs := by
  intro c hc
  have hdigit := h c (List.mem_of_mem_head? hc)
  constructor <;> rintro rfl <;> cases hdigit

theorem readInt_eq_some_iff {cs : List Char} {i : Int} (h : Unsigned cs) :
    readInt cs = some i ↔
      cs ≠ [] ∧ (∀ c ∈ cs, c.isDigit = true) ∧ (digitsToNat cs : Int) = i := by
  unfold readInt
  split
  · exact absurd rfl (h '-' rfl).1
  · exact absurd rfl (h '+' rfl).2
  · rw [Option.ite_none_right_eq_some, List.all_eq_true, Option.some.injEq, and_assoc]

/-- Digits are read as a number of 64 bits when they write a number below 2^63. -/
theorem readInt64_eq_some_iff {cs : List Char} {i : Int} (h : Unsigned cs) :
    readInt64 cs = some i ↔
      cs ≠ [] ∧ (∀ c ∈ cs, c.isDigit = true) ∧ digitsToNat cs < Nat.pow 2 63 ∧
        (digitsToNat cs : Int) = i := by
  rw [readInt64, Option.filter_eq_some_iff, readInt_eq_some_iff h, decide_eq_true_iff]
  constructor
  · rintro ⟨⟨hne, hdigits, rfl⟩, -, hlt⟩
    exact ⟨hne, hdigits, by exact_mod_cast hlt, rfl⟩
  · rintro ⟨hne, hdigits, hlt, rfl⟩
    exact ⟨⟨hne, hdigits, rfl⟩, by omega, by exact_mod_cast hlt⟩

end JoinPlan.Decimal
