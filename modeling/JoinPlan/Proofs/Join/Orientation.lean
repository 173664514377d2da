import JoinPlan.Proofs.Join.Regrouping
import Mathlib.Data.List.Forall2

/-!
# Keys of turned conditions

An equality can be written either way round, and so can a join. Where each equality of two columns
has one of either side, turning some of them does not change the keys of a condition, and the join
with its sides exchanged has the same keys with their sides exchanged.
-/

namespace JoinPlan

/-! ## Turned equalities -/

/-- Whether predicates are the same, but for the order of the operands of some equalities. -/
inductive Predicate.Turned : Predicate → Predicate → Prop
  | leaf (c : Comparison) : Turned (.leaf c) (.leaf c)
  | equality (name : String) (a b : Operand) :
      Turned (.leaf ⟨name, a, .eq, b⟩) (.leaf ⟨name, b, .eq, a⟩)
  | node {name : String} {connective : Connective} {ps qs : List Predicate}
      (h : List.Forall₂ Turned ps qs) : Turned (.node name connective ps) (.node name connective qs)

namespace Predicate

mutual
theorem Turned.conjuncts : (p : Predicate) → {q : Predicate} → p.Turned q →
    List.Forall₂ Turned p.conjuncts q.conjuncts
  | .leaf _, _, h => by
    cases h with
    | leaf => simpa using Turned.leaf _
    | equality name a b => simpa using Turned.equality name a b
  | .node _ .and ps, _, .node h => by
    rw [conjuncts_and, conjuncts_and]
    exact Turned.conjunctsOf ps h
  | .node _ .or _, _, .node h => by
    rw [conjuncts_or, conjuncts_or]
    exact .cons (.node h) .nil

theorem Turned.conjunctsOf : (ps : List Predicate) → {qs : List Predicate} →
    List.Forall₂ Turned ps qs → List.Forall₂ Turned (conjunctsOf ps) (conjunctsOf qs)
  | [], _, .nil => .nil
  | p :: ps, _, .cons h hs => List.rel_append (Turned.conjuncts p h) (Turned.conjunctsOf ps hs)
end

mutual
theorem Turned.length_leaves : (p : Predicate) → {q : Predicate} → p.Turned q →
    p.leaves.length = q.leaves.length
  | .leaf _, _, h => by cases h <;> rfl
  | .node _ _ ps, _, .node h => Turned.length_leavesOf ps h

theorem Turned.length_leavesOf : (ps : List Predicate) → {qs : List Predicate} →
    List.Forall₂ Turned ps qs → (leavesOf ps).length = (leavesOf qs).length
  | [], _, .nil => rfl
  | p :: ps, _, .cons h hs => by
    rw [leavesOf, leavesOf, List.length_append, List.length_append, Turned.length_leaves p h,
      Turned.length_leavesOf ps hs]
end

/-- A turned equality equates the same columns in the other order. -/
theorem Turned.equated? {p q : Predicate} (h : p.Turned q) :
    q.equated? = p.equated? ∨ q.equated? = p.equated?.map Prod.swap := by
  cases h with
  | leaf | node => exact Or.inl rfl
  | equality name a b =>
    cases a with
    | literal => cases b <;> exact Or.inl rfl
    | column => cases b <;> exact Or.inr rfl

theorem Turned.isNone_equatedColumns {p q : Predicate} (h : p.Turned q) :
    q.comparison?.map (fun c => (JoinKeys.equatedColumns c).isNone) =
      p.comparison?.map fun c => (JoinKeys.equatedColumns c).isNone := by
  cases h with
  | leaf | node => rfl
  | equality name a b => cases a <;> cases b <;> rfl

end Predicate

/-! ## Columns of two sides -/

/-- The pair with its sides exchanged. -/
def KeyPair.exchange (k : KeyPair) : KeyPair := ⟨k.right, k.left⟩

theorem KeyPair.exchange_injective : Function.Injective KeyPair.exchange := by
  rintro ⟨x, y⟩ ⟨z, w⟩ h
  cases h
  rfl

/-- Whether a scope has an answer to a column and another one has none. -/
def Scope.KnowsAlone (side other : Scope) (c : Column) : Prop :=
  (side.resolve c.text).isSome = true ∧ other.resolve c.text = none

instance (side other : Scope) (c : Column) : Decidable (side.KnowsAlone other c) :=
  inferInstanceAs (Decidable (_ ∧ _))

namespace JoinKeys

open Predicate

variable {left right : Scope}

/-- Whether of two columns one is known on the left alone and the other one on the right alone. -/
def OnBothSides (left right : Scope) (e : Column × Column) : Prop :=
  (left.KnowsAlone right e.1 ∧ right.KnowsAlone left e.2) ∨
    (right.KnowsAlone left e.1 ∧ left.KnowsAlone right e.2)

instance (left right : Scope) (e : Column × Column) : Decidable (OnBothSides left right e) :=
  inferInstanceAs (Decidable (_ ∨ _))

theorem pairOf_of_left {a b c d : Column} (ha : left.resolve a.text = some c)
    (hb : right.resolve b.text = some d) (hother : left.resolve b.text = none) :
    pairOf left right a b = some ⟨c.text, d.text⟩ := by
  have hne : a.text ≠ b.text := by
    intro h
    rw [← h, ha] at hother
    cases hother
  simp [pairOf, keyOn, hne, ha, hb]

theorem pairOf_of_right {a b c d : Column} (ha : right.resolve a.text = some d)
    (hb : left.resolve b.text = some c) (hother : left.resolve a.text = none) :
    pairOf left right a b = some ⟨c.text, d.text⟩ := by
  have hne : a.text ≠ b.text := by
    intro h
    rw [h, hb] at hother
    cases hother
  simp [pairOf, keyOn, hne, ha, hb, hother]

/-- Such columns make one pair in either order, and that pair exchanged when the sides are. -/
theorem pairFor_of_onBothSides {e : Column × Column} (h : OnBothSides left right e) :
    ∃ x y, pairFor left right e = some ⟨x, y⟩ ∧ pairFor left right e.swap = some ⟨x, y⟩ ∧
      pairFor right left e = some ⟨y, x⟩ := by
  obtain ⟨a, b⟩ := e
  rcases h with ⟨⟨ha, hanot⟩, hb, hbnot⟩ | ⟨⟨ha, hanot⟩, hb, hbnot⟩
  · obtain ⟨c, hc⟩ := Option.isSome_iff_exists.mp ha
    obtain ⟨d, hd⟩ := Option.isSome_iff_exists.mp hb
    exact ⟨c.text, d.text, pairOf_of_left hc hd hbnot, pairOf_of_right hd hc hbnot,
      pairOf_of_right hc hd hanot⟩
  · obtain ⟨d, hd⟩ := Option.isSome_iff_exists.mp ha
    obtain ⟨c, hc⟩ := Option.isSome_iff_exists.mp hb
    exact ⟨c.text, d.text, pairOf_of_right hd hc hanot, pairOf_of_left hc hd hanot,
      pairOf_of_left hd hc hbnot⟩

/-! ## Turned conditions -/

theorem map_pairFor_of_turned {ps qs : List Predicate} (h : List.Forall₂ Turned ps qs)
    (hsides : ∀ e ∈ ps.filterMap equated?, OnBothSides left right e) :
    (qs.filterMap equated?).map (pairFor left right) =
      (ps.filterMap equated?).map (pairFor left right) := by
  induction h with
  | nil => rfl
  | @cons p q ps qs h hs ih =>
    cases hp : p.equated? with
    | none =>
      have hq : q.equated? = none := by rcases h.equated? with hq | hq <;> simp [hq, hp]
      rw [List.filterMap_cons_none hp] at hsides
      rw [List.filterMap_cons_none hp, List.filterMap_cons_none hq, ih hsides]
    | some e =>
      rw [List.filterMap_cons_some hp, List.forall_mem_cons] at hsides
      obtain ⟨x, y, he, hswap, -⟩ := pairFor_of_onBothSides hsides.1
      rw [List.filterMap_cons_some hp, List.map_cons, he]
      rcases h.equated? with hq | hq
      · rw [List.filterMap_cons_some (hq.trans hp), List.map_cons, he, ih hsides.2]
      · rw [hp, Option.map_some] at hq
        rw [List.filterMap_cons_some hq, List.map_cons, hswap, ih hsides.2]

theorem map_isNone_of_turned {ps qs : List Predicate} (h : List.Forall₂ Turned ps qs) :
    (qs.filterMap comparison?).map (fun c => (equatedColumns c).isNone) =
      (ps.filterMap comparison?).map fun c => (equatedColumns c).isNone := by
  rw [List.map_filterMap, List.map_filterMap]
  induction h with
  | nil => rfl
  | cons h _ ih => rw [List.filterMap_cons, List.filterMap_cons, h.isNone_equatedColumns, ih]

theorem hasRest_of_turned {p q : Predicate} (h : p.Turned q) : hasRest q = hasRest p := by
  have hnone := map_isNone_of_turned (Turned.conjuncts p h)
  have hlength := congrArg List.length hnone
  have hany := congrArg (List.any · id) hnone
  simp only [List.length_map] at hlength
  simp only [List.any_map, Function.comp_def, id] at hany
  rw [hasRest, hasRest, comparisons, comparisons, hlength, hany, Turned.length_leaves p h]

/-- Turning equalities keeps the keys of a condition, if each of its equalities of columns has one
column of either side. -/
theorem ofCondition_of_turned {on on' : JoinCondition}
    (hsides : ∀ e ∈ equalities on.predicate, OnBothSides left right e)
    (h : on.predicate.Turned on'.predicate) (keys : JoinKeys) :
    ofCondition on' left right = .ok keys ↔ ofCondition on left right = .ok keys := by
  have hpairs := map_pairFor_of_turned (Turned.conjuncts _ h) hsides
  rw [ofCondition_eq_ok, ofCondition_eq_ok, hpairs, hasRest_of_turned h]

/-! ## Exchanged sides -/

/-- Whether keys are others with their sides exchanged. -/
structure Exchanged (keys keys' : JoinKeys) : Prop where
  leftKeys : keys'.leftKeys = keys.rightKeys
  rightKeys : keys'.rightKeys = keys.leftKeys
  residual : keys'.residual = keys.residual

theorem foldl_addPair_exchange (ps found : List KeyPair) :
    (ps.map KeyPair.exchange).foldl addPair (found.map KeyPair.exchange) =
      (ps.foldl addPair found).map KeyPair.exchange := by
  induction ps generalizing found with
  | nil => rfl
  | cons p ps ih =>
    have hadd : addPair (found.map KeyPair.exchange) p.exchange =
        (addPair found p).map KeyPair.exchange := by
      have hmem : p.exchange ∈ found.map KeyPair.exchange ↔ p ∈ found :=
        List.mem_map_of_injective KeyPair.exchange_injective
      by_cases hp : p ∈ found
      · rw [addPair, addPair, if_pos hp, if_pos (hmem.mpr hp)]
      · rw [addPair, addPair, if_neg hp, if_neg (mt hmem.mp hp), List.map_append, List.map_singleton]
    rw [List.map_cons, List.foldl_cons, List.foldl_cons, hadd, ih]

theorem eraseDups_exchange (ps : List KeyPair) :
    (ps.map KeyPair.exchange).eraseDups = ps.eraseDups.map KeyPair.exchange := by
  rw [← foldl_addPair, ← foldl_addPair, ← foldl_addPair_exchange, List.map_nil]

theorem map_pairFor_exchange {es : List (Column × Column)}
    (hsides : ∀ e ∈ es, OnBothSides left right e) :
    es.map (pairFor right left) = (es.map (pairFor left right)).map (Option.map KeyPair.exchange) := by
  rw [List.map_map]
  refine List.map_congr_left fun e he => ?_
  obtain ⟨x, y, hxy, -, hyx⟩ := pairFor_of_onBothSides (hsides e he)
  rw [Function.comp_apply, hxy, hyx]
  rfl

/-- A condition that has keys for two sides has the exchanged keys for the exchanged sides. -/
theorem ofCondition_exchange {on : JoinCondition} {keys : JoinKeys}
    (hsides : ∀ e ∈ equalities on.predicate, OnBothSides left right e)
    (h : ofCondition on left right = .ok keys) :
    ∃ keys', ofCondition on right left = .ok keys' ∧ keys.Exchanged keys' := by
  obtain ⟨ps, hne, hps, rfl⟩ := ofCondition_eq_ok.mp h
  have hpairs : (equalities on.predicate).map (pairFor right left) =
      (ps.map KeyPair.exchange).map some := by
    rw [map_pairFor_exchange hsides, equalities, hps]
    simp only [List.map_map, Function.comp_def, Option.map_some]
  refine ⟨_, ofCondition_eq_ok.mpr ⟨_, mt List.map_eq_nil_iff.mp hne, hpairs, rfl⟩, ?_⟩
  rw [eraseDups_exchange]
  exact ⟨by simp [leftKeys, rightKeys, KeyPair.exchange],
    by simp [leftKeys, rightKeys, KeyPair.exchange], rfl⟩

theorem OnBothSides.symm {e : Column × Column} (h : OnBothSides left right e) :
    OnBothSides right left e :=
  Or.symm h

/-! ## Orientation -/

/-- Where each equality of columns has one column of either side, a condition keeps its keys when
equalities in it are turned, and has the exchanged keys when the sides are exchanged. Where it has no
keys it has none then. -/
theorem ofCondition_of_onBothSides {on : JoinCondition} {left right : Scope}
    (hsides : ∀ e ∈ equalities on.predicate, OnBothSides left right e) :
    (∀ on' : JoinCondition, on.predicate.Turned on'.predicate →
      Alike (· = ·) (ofCondition on left right) (ofCondition on' left right)) ∧
    Alike Exchanged (ofCondition on left right) (ofCondition on right left) := by
  constructor
  · intro on' h
    have hsame := ofCondition_of_turned hsides h
    exact alike_of_imp (fun keys hkeys => ⟨keys, (hsame keys).mpr hkeys, rfl⟩)
      fun keys hkeys => ⟨keys, (hsame keys).mp hkeys⟩
  · refine alike_of_imp (fun keys hkeys => ofCondition_exchange hsides hkeys) fun keys' hkeys' => ?_
    obtain ⟨keys, hkeys, -⟩ := ofCondition_exchange (fun e he => (hsides e he).symm) hkeys'
    exact ⟨keys, hkeys⟩

/-! ### An order and its payments -/

def sameOrderTurned : Predicate :=
  .compare (.column ⟨some "p", "order_id"⟩) .eq (.column ⟨some "orders", "id"⟩)

def firstOrder : Predicate :=
  .compare (.literal (.scalar "1" (.int 1))) .eq (.column ⟨some "orders", "id"⟩)

def firstOrderTurned : Predicate :=
  .compare (.column ⟨some "orders", "id"⟩) .eq (.literal (.scalar "1" (.int 1)))

/-- Payments of the first order in its region, in two parts that say so twice. -/
def regionalPayments : JoinCondition :=
  ⟨"", .and [sameOrder, .and [sameRegion, firstOrder], .or [notFirst, .and [sameOrder, firstOrder]]]⟩

/-- The same, with equalities at all depths turned. -/
def regionalPaymentsTurned : JoinCondition :=
  ⟨"", .and [sameOrderTurned, .and [sameRegion, firstOrderTurned],
    .or [notFirst, .and [sameOrderTurned, firstOrder]]]⟩

theorem turned_regionalPayments : regionalPayments.predicate.Turned regionalPaymentsTurned.predicate :=
  .node (.cons (.equality ..)
    (.cons (.node (.cons (.leaf _) (.cons (.equality ..) .nil)))
      (.cons (.node (.cons (.leaf _) (.cons (.node (.cons (.equality ..) (.cons (.leaf _) .nil)))
        .nil))) .nil)))

theorem ofCondition_of_onBothSides_regionalPayments :
    ofCondition regionalPayments regionalScope paymentScope =
        .ok ⟨[⟨"id", "order_id"⟩, ⟨"region", "region"⟩], true⟩ ∧
      (∀ e ∈ equalities regionalPayments.predicate, OnBothSides regionalScope paymentScope e) ∧
      regionalPayments.predicate.Turned regionalPaymentsTurned.predicate ∧
      Alike (· = ·) (ofCondition regionalPayments regionalScope paymentScope)
        (ofCondition regionalPaymentsTurned regionalScope paymentScope) ∧
      Alike Exchanged (ofCondition regionalPayments regionalScope paymentScope)
        (ofCondition regionalPayments paymentScope regionalScope) := by
  have hsides : ∀ e ∈ equalities regionalPayments.predicate,
      OnBothSides regionalScope paymentScope e := by decide +kernel
  obtain ⟨hturned, hexchanged⟩ := ofCondition_of_onBothSides hsides
  exact ⟨by decide +kernel, hsides, turned_regionalPayments,
    hturned regionalPaymentsTurned turned_regionalPayments, hexchanged⟩

end JoinKeys

end JoinPlan
