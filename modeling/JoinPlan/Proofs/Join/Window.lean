import JoinPlan.Join.Source
import JoinPlan.Join.Window
import JoinPlan.Proofs.Join.Keys

/-!
# No part of a condition is lost in a window

A window has the pairs that the equalities of its condition make one by one. It keeps the whole
condition unless that has no other parts.
-/

namespace JoinPlan

open Predicate

/-! ## Single equalities -/

namespace JoinKeys

variable {left right : Scope}

theorem ofCondition_of_equated {content : String} {p : Predicate} {e : Column × Column}
    {k : KeyPair} (he : p.equated? = some e) (hk : pairFor left right e = some k) :
    ofCondition ⟨content, p⟩ left right = .ok ⟨[k], false⟩ := by
  obtain ⟨name, rfl⟩ := equated?_eq_some.mp he
  exact ofCondition_eq_ok.mpr ⟨[k], List.cons_ne_nil k [], by simpa [he] using hk, rfl⟩

/-- Equalities that make pairs make the same pairs one by one. -/
theorem map_ofCondition_of_pairs {content : String} {qs : List Predicate} {ps : List KeyPair}
    (h : (qs.filterMap equated?).map (pairFor left right) = ps.map some) :
    (qs.filter equatesColumns).map (fun q => ofCondition ⟨content, q⟩ left right) =
      ps.map fun k => .ok ⟨[k], false⟩ := by
  induction qs generalizing ps with
  | nil =>
    cases List.map_eq_nil_iff.mp h.symm
    rfl
  | cons q qs ih =>
    have hq := isSome_equated? q
    cases he : q.equated? with
    | none =>
      rw [List.filterMap_cons_none he] at h
      rw [he] at hq
      rw [List.filter_cons_of_neg (by simp [← hq])]
      exact ih h
    | some e =>
      rw [List.filterMap_cons_some he, List.map_cons] at h
      rw [he] at hq
      rw [List.filter_cons_of_pos hq.symm, List.map_cons]
      cases ps with
      | nil => cases h
      | cons k ps =>
        obtain ⟨hk, hrest⟩ := List.cons.inj h
        rw [ofCondition_of_equated he hk, ih hrest, List.map_cons]

end JoinKeys

/-! ## Windows -/

namespace JoinWindow

theorem ofCondition_eq_ok {space name : String} {c : JoinCondition} {kind : JoinKind}
    {left right : Scope} {window : JoinWindow} :
    ofCondition space name c kind left right = .ok window ↔
      ∃ keys, JoinKeys.ofCondition c left right = .ok keys ∧
        ⟨space, name, keys.leftKeys, keys.rightKeys, kind,
          if keys.residual then some c else none, right.asName⟩ = window := by
  rw [ofCondition, Outcome.bind_eq_ok]
  simp only [Outcome.pure_eq_ok]

/-- Whether a window matches rows by pairs of keys, each of them once. -/
structure Keyed (window : JoinWindow) : Prop where
  left_ne_nil : window.leftKeys ≠ []
  right_ne_nil : window.rightKeys ≠ []
  length_eq : window.leftKeys.length = window.rightKeys.length
  nodup : (window.leftKeys.zip window.rightKeys).Nodup

theorem keyed_of_ofCondition {space name : String} {c : JoinCondition} {kind : JoinKind}
    {left right : Scope} {window : JoinWindow}
    (h : ofCondition space name c kind left right = .ok window) : window.Keyed := by
  obtain ⟨keys, hkeys, rfl⟩ := ofCondition_eq_ok.mp h
  obtain ⟨ps, hne, -, rfl⟩ := JoinKeys.ofCondition_eq_ok.mp hkeys
  have hpairs : ps.eraseDups ≠ [] := fun hnil => hne (JoinKeys.eraseDups_eq_nil.mp hnil)
  have hnodup : ps.eraseDups.Nodup :=
    JoinKeys.foldl_addPair ps ▸ JoinKeys.nodup_foldl_addPair List.nodup_nil
  refine ⟨?_, ?_, ?_, ?_⟩
  · simpa [JoinKeys.leftKeys] using hpairs
  · simpa [JoinKeys.rightKeys] using hpairs
  · simp only [JoinKeys.leftKeys, JoinKeys.rightKeys, List.length_map]
  · simp only [JoinKeys.leftKeys, JoinKeys.rightKeys, List.zip_map']
    refine hnodup.map fun a b hab => ?_
    obtain ⟨hleft, hright⟩ := Prod.mk.inj hab
    cases a
    cases b
    cases hleft
    cases hright
    rfl

/-- A window keeps its condition unless that demands nothing but equalities of columns. Its keys are
the pairs that these equalities make one by one, each pair once. -/
theorem keys_and_residual {space name : String} {on : JoinCondition} {kind : JoinKind}
    {left right : Scope} {window : JoinWindow} (hfilled : on.predicate.Filled)
    (h : ofCondition space name on kind left right = .ok window) :
    (window.residual = none ↔ on.predicate.OnlyEqualities) ∧
    (¬on.predicate.OnlyEqualities → window.residual = some on) ∧
    window.leftKeys.length = window.rightKeys.length ∧
    ∃ ps : List KeyPair,
      (∀ content, (on.predicate.conjuncts.filter equatesColumns).map
          (fun p => JoinKeys.ofCondition ⟨content, p⟩ left right) =
        ps.map fun k => .ok ⟨[k], false⟩) ∧
      window.leftKeys.zip window.rightKeys = ps.eraseDups.map fun k => (k.left, k.right) := by
  obtain ⟨keys, hkeys, rfl⟩ := ofCondition_eq_ok.mp h
  obtain ⟨ps, -, hps, rfl⟩ := JoinKeys.ofCondition_eq_ok.mp hkeys
  rw [← JoinKeys.hasRest_eq_false_iff hfilled]
  refine ⟨?_, ?_, ?_, ps, fun content => JoinKeys.map_ofCondition_of_pairs hps, ?_⟩
  · cases JoinKeys.hasRest on.predicate <;> simp
  · intro hrest
    rw [Bool.not_eq_false] at hrest
    exact if_pos hrest
  · simp only [JoinKeys.leftKeys, JoinKeys.rightKeys, List.length_map]
  · simp only [JoinKeys.leftKeys, JoinKeys.rightKeys, List.zip_map']

/-- Payments of an order, but for the first one. -/
def laterPayments : JoinCondition where
  content := "orders.id = p.order_id AND p.id > 1"
  predicate :=
    .and [.compare (.column ⟨some "orders", "id"⟩) .eq (.column ⟨some "p", "order_id"⟩),
      .compare (.column ⟨some "p", "id"⟩) .gt (.literal (.scalar "1" (.int 1)))]

theorem keys_and_residual_laterPayments :
    laterPayments.predicate.Filled ∧ ∃ window,
      ofCondition "default" "window" laterPayments .inner
          (Table.scope ⟨"orders", none, ["id"]⟩)
          (Table.scope ⟨"payments", some "p", ["id", "order_id"]⟩) = .ok window ∧
        window.residual = some laterPayments := by
  have hfilled : laterPayments.predicate.Filled :=
    .node (List.cons_ne_nil _ _)
      (List.forall_mem_cons.mpr ⟨.leaf _, List.forall_mem_singleton.mpr (.leaf _)⟩)
  obtain ⟨window, hwindow⟩ : ∃ window, ofCondition "default" "window" laterPayments .inner
      (Table.scope ⟨"orders", none, ["id"]⟩)
      (Table.scope ⟨"payments", some "p", ["id", "order_id"]⟩) = .ok window := ⟨_, rfl⟩
  refine ⟨hfilled, window, hwindow, (keys_and_residual hfilled hwindow).2.1 ?_⟩
  rintro (_ | h)
  cases h _ (List.mem_cons_of_mem _ List.mem_cons_self)

end JoinWindow

end JoinPlan
