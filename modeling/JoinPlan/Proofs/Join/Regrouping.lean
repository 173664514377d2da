import JoinPlan.Join.Source
import JoinPlan.Proofs.Join.Keys
import Mathlib.Data.List.Perm.Basic

/-!
# Keys of regrouped conditions

The keys of a condition and what it leaves over are determined by its parts. So it does not matter
how the conjunctions in a condition are nested. In another order the parts make the same pairs.
-/

namespace JoinPlan.JoinKeys

open Predicate

variable {left right : Scope}

/-! ## Conditions with the same outcome -/

/-- Whether two conditions both have no keys, or have keys that are related. -/
inductive Alike (R : JoinKeys → JoinKeys → Prop) :
    Except KeyError JoinKeys → Except KeyError JoinKeys → Prop
  | error (e e' : KeyError) : Alike R (.error e) (.error e')
  | ok {keys keys' : JoinKeys} (h : R keys keys') : Alike R (.ok keys) (.ok keys')

/-- Whether keys have the same pairs, in whatever order, and leave a rest alike. -/
structure SamePairs (keys keys' : JoinKeys) : Prop where
  pairs : keys.pairs.Perm keys'.pairs
  residual : keys.residual = keys'.residual

theorem alike_of_imp {R : JoinKeys → JoinKeys → Prop} {x y : Except KeyError JoinKeys}
    (hxy : ∀ keys, x = .ok keys → ∃ keys', y = .ok keys' ∧ R keys keys')
    (hyx : ∀ keys', y = .ok keys' → ∃ keys, x = .ok keys) : Alike R x y := by
  cases x with
  | ok keys =>
    obtain ⟨keys', rfl, hR⟩ := hxy keys rfl
    exact .ok hR
  | error e =>
    cases y with
    | error e' => exact .error e e'
    | ok keys' =>
      obtain ⟨keys, hkeys⟩ := hyx keys' rfl
      cases hkeys

/-! ## What the parts determine -/

theorem map_eq_map_some_iff {α β : Type} {f : α → Option β} {ys : List β} :
    {xs : List α} →
      (xs.map f = ys.map some ↔ (∀ x ∈ xs, (f x).isSome = true) ∧ xs.filterMap f = ys)
  | [] => by cases ys <;> simp
  | x :: xs => by
    cases hx : f x with
    | none =>
      rw [List.map_cons, hx]
      cases ys <;> simp [hx]
    | some y =>
      rw [List.map_cons, List.filterMap_cons_some hx, List.forall_mem_cons, hx]
      cases ys with
      | nil => simp
      | cons z zs =>
        rw [List.map_cons, List.cons.injEq, List.cons.injEq, map_eq_map_some_iff, Option.some.injEq]
        simp only [Option.isSome_some, true_and]
        exact and_left_comm

/-- The equalities of columns among the parts of a condition. -/
def equalities (p : Predicate) : List (Column × Column) :=
  p.conjuncts.filterMap equated?

/-- A condition has keys when there are equalities among its parts and each of them makes a pair. -/
theorem ofCondition_eq_ok_iff {on : JoinCondition} {keys : JoinKeys} :
    ofCondition on left right = .ok keys ↔
      ((equalities on.predicate).filterMap (pairFor left right) ≠ [] ∧
        ∀ e ∈ equalities on.predicate, (pairFor left right e).isSome = true) ∧
      ⟨((equalities on.predicate).filterMap (pairFor left right)).eraseDups,
        hasRest on.predicate⟩ = keys := by
  rw [ofCondition_eq_ok]
  simp only [map_eq_map_some_iff]
  constructor
  · rintro ⟨_, hne, ⟨hall, rfl⟩, hkeys⟩
    exact ⟨⟨hne, hall⟩, hkeys⟩
  · rintro ⟨⟨hne, hall⟩, hkeys⟩
    exact ⟨_, hne, ⟨hall, rfl⟩, hkeys⟩

/-- What a condition leaves over can be told from its parts, in whatever order. -/
theorem hasRest_of_perm {p q : Predicate} (h : p.conjuncts.Perm q.conjuncts) :
    hasRest p = hasRest q := by
  have hcomparisons : (comparisons p).Perm (comparisons q) := h.filterMap _
  have hleaves : p.leaves.Perm q.leaves := by
    rw [← flatMap_leaves_conjuncts p, ← flatMap_leaves_conjuncts q]
    exact h.flatMap_right _
  rw [hasRest, hasRest, hcomparisons.length_eq, hleaves.length_eq, hcomparisons.any_eq]

theorem nodup_eraseDups (ps : List KeyPair) : ps.eraseDups.Nodup :=
  foldl_addPair ps ▸ nodup_foldl_addPair List.nodup_nil

theorem perm_eraseDups {ps qs : List KeyPair} (h : ps.Perm qs) :
    ps.eraseDups.Perm qs.eraseDups := by
  rw [List.perm_ext_iff_of_nodup (nodup_eraseDups ps) (nodup_eraseDups qs)]
  intro k
  rw [List.mem_eraseDups, List.mem_eraseDups, h.mem_iff]

/-- Parts in another order have keys when the parts do, and they make the same pairs. -/
theorem ofCondition_of_perm {on on' : JoinCondition}
    (h : on.predicate.conjuncts.Perm on'.predicate.conjuncts) {keys : JoinKeys}
    (hkeys : ofCondition on left right = .ok keys) :
    ∃ keys', ofCondition on' left right = .ok keys' ∧ keys.SamePairs keys' := by
  obtain ⟨⟨hne, hall⟩, rfl⟩ := ofCondition_eq_ok_iff.mp hkeys
  have hequalities : (equalities on.predicate).Perm (equalities on'.predicate) := h.filterMap _
  have hpairs := hequalities.filterMap (pairFor left right)
  refine ⟨_, ofCondition_eq_ok_iff.mpr ⟨⟨?_, ?_⟩, rfl⟩, perm_eraseDups hpairs, hasRest_of_perm h⟩
  · exact fun hnil => hne (List.perm_nil.mp (hnil ▸ hpairs))
  · exact fun e he => hall e (hequalities.mem_iff.mpr he)

/-! ## Regrouping -/

/-- Conditions with the same parts have the same keys. Where the parts of one are those of the other
in another order, the keys have the same pairs, and both conditions leave something over or neither
does. Where one condition has no keys the other has none. -/
theorem ofCondition_of_conjuncts (on on' : JoinCondition) (left right : Scope) :
    (on.predicate.conjuncts = on'.predicate.conjuncts →
      Alike (· = ·) (ofCondition on left right) (ofCondition on' left right)) ∧
    (on.predicate.conjuncts.Perm on'.predicate.conjuncts →
      Alike SamePairs (ofCondition on left right) (ofCondition on' left right)) := by
  constructor
  · intro h
    have hequalities : equalities on.predicate = equalities on'.predicate :=
      congrArg (List.filterMap equated?) h
    have hsame : ∀ keys, ofCondition on left right = .ok keys ↔
        ofCondition on' left right = .ok keys := by
      intro keys
      rw [ofCondition_eq_ok_iff, ofCondition_eq_ok_iff, hequalities,
        hasRest_of_perm (List.Perm.of_eq h)]
    exact alike_of_imp (fun keys hkeys => ⟨keys, (hsame keys).mp hkeys, rfl⟩)
      fun keys hkeys => ⟨keys, (hsame keys).mpr hkeys⟩
  · intro h
    refine alike_of_imp (fun keys hkeys => ofCondition_of_perm h hkeys) fun keys' hkeys' => ?_
    obtain ⟨keys, hkeys, -⟩ := ofCondition_of_perm h.symm hkeys'
    exact ⟨keys, hkeys⟩

/-! ### An order and its payments -/

/-- The order of a payment. -/
def sameOrder : Predicate :=
  .compare (.column ⟨some "orders", "id"⟩) .eq (.column ⟨some "p", "order_id"⟩)

def sameRegion : Predicate :=
  .compare (.column ⟨some "orders", "region"⟩) .eq (.column ⟨some "p", "region"⟩)

def notFirst : Predicate :=
  .compare (.column ⟨some "p", "id"⟩) .gt (.literal (.scalar "1" (.int 1)))

def regionalScope : Scope := Table.scope ⟨"orders", none, ["id", "region"]⟩

def paymentScope : Scope := Table.scope ⟨"payments", some "p", ["id", "order_id", "region"]⟩

def paymentCondition : JoinCondition :=
  ⟨"", .and [.and [sameOrder, sameRegion], notFirst]⟩

/-- The parts of `paymentCondition`, grouped the other way. -/
def regrouped : JoinCondition :=
  ⟨"", .and [sameOrder, .and [sameRegion, notFirst]]⟩

/-- The parts of `paymentCondition`, from the last to the first. -/
def reordered : JoinCondition :=
  ⟨"", .and [.and [notFirst, sameRegion], .and [sameOrder]]⟩

theorem ofCondition_of_conjuncts_payments :
    ofCondition paymentCondition regionalScope paymentScope =
        .ok ⟨[⟨"id", "order_id"⟩, ⟨"region", "region"⟩], true⟩ ∧
      paymentCondition.predicate.conjuncts = regrouped.predicate.conjuncts ∧
      Alike (· = ·) (ofCondition paymentCondition regionalScope paymentScope)
        (ofCondition regrouped regionalScope paymentScope) ∧
      paymentCondition.predicate.conjuncts.Perm reordered.predicate.conjuncts ∧
      Alike SamePairs (ofCondition paymentCondition regionalScope paymentScope)
        (ofCondition reordered regionalScope paymentScope) := by
  have hsame : paymentCondition.predicate.conjuncts = regrouped.predicate.conjuncts := rfl
  have hperm : paymentCondition.predicate.conjuncts.Perm reordered.predicate.conjuncts :=
    List.reverse_perm [notFirst, sameRegion, sameOrder]
  obtain ⟨hregrouped, -⟩ :=
    ofCondition_of_conjuncts paymentCondition regrouped regionalScope paymentScope
  obtain ⟨-, hreordered⟩ :=
    ofCondition_of_conjuncts paymentCondition reordered regionalScope paymentScope
  exact ⟨by decide +kernel, hsame, hregrouped hsame, hperm, hreordered hperm⟩

end JoinPlan.JoinKeys
