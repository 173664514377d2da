import JoinPlan.Join.Keys
import JoinPlan.Proofs.Outcome
import JoinPlan.Proofs.Predicate.Canonical
import JoinPlan.Proofs.Predicate.Normal
import Mathlib.Data.List.Induction
import Mathlib.Data.List.Nodup

/-!
# Keys and the parts of a condition

The keys of a condition come from those of its parts that equate two columns, one pair of each part,
in the order of the parts and each pair once. They cover the condition when it has no other parts.
-/

namespace JoinPlan

/-! ## Parts -/

namespace Predicate

/-- Whether a predicate is an equality of two columns. -/
def equatesColumns : Predicate → Bool
  | .leaf ⟨_, .column _, .eq, .column _⟩ => true
  | _ => false

/-- The two columns that a predicate equates, if it is an equality of two columns. -/
def equated? (p : Predicate) : Option (Column × Column) :=
  p.comparison?.bind JoinKeys.equatedColumns

/-- A predicate that is an equality of two columns, or a conjunction of such predicates. -/
inductive OnlyEqualities : Predicate → Prop
  | equality (name : String) (a b : Column) :
      OnlyEqualities (.leaf ⟨name, .column a, .eq, .column b⟩)
  | and {name : String} {ps : List Predicate} (h : ∀ p ∈ ps, OnlyEqualities p) :
      OnlyEqualities (.node name .and ps)

theorem equated?_eq_some {p : Predicate} {e : Column × Column} :
    p.equated? = some e ↔ ∃ name, p = .leaf ⟨name, .column e.1, .eq, .column e.2⟩ := by
  constructor
  · intro h
    obtain ⟨⟨name, left, op, right⟩, hc, he⟩ := Option.bind_eq_some_iff.mp h
    cases p with
    | node name' connective ps => cases hc
    | leaf c =>
      cases hc
      unfold JoinKeys.equatedColumns at he
      split at he
      · cases he
        simp_all
      · cases he
  · rintro ⟨name, rfl⟩
    rfl

theorem isSome_equated? (p : Predicate) : p.equated?.isSome = p.equatesColumns := by
  rw [Bool.eq_iff_iff, Option.isSome_iff_exists]
  simp only [equated?_eq_some]
  unfold equatesColumns
  constructor
  · rintro ⟨e, name, rfl⟩
    rfl
  · intro h
    split at h
    · exact ⟨(_, _), _, rfl⟩
    · cases h

mutual
theorem onlyEqualities_iff : (p : Predicate) →
    (p.OnlyEqualities ↔ ∀ q ∈ p.conjuncts, q.equatesColumns = true)
  | .leaf c => by
    rw [conjuncts_leaf, List.forall_mem_singleton, ← isSome_equated?, Option.isSome_iff_exists]
    constructor
    · rintro ⟨name, a, b⟩
      exact ⟨(a, b), rfl⟩
    · rintro ⟨e, he⟩
      obtain ⟨name, hname⟩ := equated?_eq_some.mp he
      exact hname ▸ .equality name e.1 e.2
  | .node name .and ps => by
    rw [conjuncts_and, ← onlyEqualities_of_all_iff ps]
    constructor
    · rintro (_ | h)
      exact h
    · exact .and
  | .node name .or ps => by
    refine iff_of_false nofun fun h => ?_
    have hor := h (.node name .or ps) (by simp)
    cases hor

theorem onlyEqualities_of_all_iff : (ps : List Predicate) →
    ((∀ p ∈ ps, p.OnlyEqualities) ↔ ∀ q ∈ conjunctsOf ps, q.equatesColumns = true)
  | [] => by simp [conjunctsOf]
  | p :: ps => by
    rw [List.forall_mem_cons, conjunctsOf, List.forall_mem_append, onlyEqualities_iff p,
      onlyEqualities_of_all_iff ps]
end

end Predicate

namespace JoinKeys

open Predicate

/-- The comparisons among the parts of a predicate. -/
def comparisons (p : Predicate) : List Comparison :=
  p.conjuncts.filterMap comparison?

/-- Whether a predicate has a part that makes no keys. -/
def hasRest (p : Predicate) : Bool :=
  decide ((comparisons p).length < p.leaves.length) ||
    (comparisons p).any fun c => (equatedColumns c).isNone

/-! ## Candidates -/

/-- In normal form the names of the parts at the top pick just the comparisons among these parts. -/
theorem candidates_of_isNormal {root : Predicate} {content : String} :
    root.IsNormal → candidates root content =
      match root with
      | .leaf c => .ok [c]
      | .node _ .or _ => .error (.disjunction content)
      | .node _ .and children =>
        match children.filterMap comparison? with
        | [] => .error (.noComparison content)
        | cs => .ok cs := by
  intro h
  rcases root with c | ⟨name, _ | _, children⟩
  · rfl
  · rw [candidates, h.filter_leaves]
    rfl
  · rfl

theorem filterMap_comparison?_flattenUnder (ps : List Predicate) :
    (flattenUnder .and ps).filterMap comparison? =
      (conjunctsOf ps).filterMap comparison? := by
  rw [flattenUnder_and, List.filterMap_map]
  congr 1
  funext p
  cases p <;> rfl

/-- Names do not matter to equalities. -/
theorem map_equatedColumns_labelAll : (ps : List Predicate) → (n : Named) →
    ((labelAll ps n).1.filterMap comparison?).map equatedColumns =
      (ps.filterMap comparison?).map equatedColumns
  | [], _ => rfl
  | .leaf c :: ps, n => by
    simp only [labelAll, label]
    exact congrArg (equatedColumns c :: ·) (map_equatedColumns_labelAll ps _)
  | .node name connective children :: ps, n => by
    simp only [labelAll, label]
    exact map_equatedColumns_labelAll ps _

/-- Where a condition has candidates they are the comparisons among its parts, under new names. -/
theorem map_equatedColumns_of_candidates {p : Predicate} {content : String} {cs : List Comparison}
    (h : candidates p.normalize content = .ok cs) :
    cs.map equatedColumns = (comparisons p).map equatedColumns := by
  rw [candidates_of_isNormal (isNormal_normalize p)] at h
  rcases p with c | ⟨name, _ | _, ps⟩
  · cases h
    rfl
  · simp only [Predicate.normalize, flatten, label] at h
    split at h
    · cases h
    · cases h
      rw [map_equatedColumns_labelAll, filterMap_comparison?_flattenUnder, comparisons, conjuncts_and]
  · cases h

/-- A condition without candidates has no comparison among its parts. -/
theorem comparisons_of_candidates_error {p : Predicate} {content : String} {e : KeyError}
    (h : candidates p.normalize content = .error e) : comparisons p = [] := by
  rw [candidates_of_isNormal (isNormal_normalize p)] at h
  rcases p with c | ⟨name, _ | _, ps⟩
  · cases h
  · simp only [Predicate.normalize, flatten, label] at h
    split at h
    · rename_i hnone
      have hmap := map_equatedColumns_labelAll (flattenUnder .and ps) ⟨0, 1⟩
      rw [filterMap_comparison?_flattenUnder] at hmap
      rw [comparisons, conjuncts_and]
      exact List.map_eq_nil_iff.mp (hmap.symm.trans (congrArg _ hnone))
    · cases h
  · simp [comparisons, comparison?]

/-! ## Pairs -/

variable {left right : Scope}

/-- The pair that an equality of two columns makes. -/
def pairFor (left right : Scope) (e : Column × Column) : Option KeyPair :=
  pairOf left right e.1 e.2

theorem collect_eq_ok {content : String} : {found keys : JoinKeys} → {cs : List Comparison} →
    (collect left right content found cs = .ok keys ↔
      ∃ ps : List KeyPair,
        (cs.filterMap equatedColumns).map (pairFor left right) = ps.map some ∧
        ⟨ps.foldl addPair found.pairs,
          found.residual || cs.any fun c => (equatedColumns c).isNone⟩ = keys)
  | found, keys, [] => by
    simp [collect]
  | found, keys, c :: cs => by
    rw [collect]
    cases he : equatedColumns c with
    | none =>
      rw [collect_eq_ok]
      simp [he]
    | some e =>
      rw [List.filterMap_cons_some he, List.map_cons]
      cases hp : pairFor left right e with
      | none =>
        rw [pairFor] at hp
        simp only [hp]
        constructor
        · intro h
          cases h
        · rintro ⟨_ | ⟨p, ps⟩, hps, -⟩ <;> cases hps
      | some p =>
        rw [pairFor] at hp
        simp only [hp]
        rw [collect_eq_ok]
        constructor
        · rintro ⟨ps, hps, rfl⟩
          exact ⟨p :: ps, congrArg (some p :: ·) hps, by simp [he]⟩
        · rintro ⟨_ | ⟨q, ps⟩, hps, rfl⟩
          · cases hps
          · obtain ⟨hq, hrest⟩ := List.cons.inj hps
            cases hq
            exact ⟨ps, hrest, by simp [he]⟩

/-- Adding pairs one by one keeps the first of those that are the same. -/
theorem foldl_addPair (ps : List KeyPair) : ps.foldl addPair [] = ps.eraseDups := by
  induction ps using List.reverseRecOn with
  | nil => rfl
  | append_singleton ps p ih =>
    rw [List.foldl_append, ih, List.eraseDups_append]
    by_cases hp : p ∈ ps <;> simp [addPair, List.removeAll, hp, List.eraseDups_cons]

theorem nodup_foldl_addPair {ps found : List KeyPair} (h : found.Nodup) :
    (ps.foldl addPair found).Nodup := by
  induction ps generalizing found with
  | nil => exact h
  | cons p ps ih =>
    apply ih
    unfold addPair
    split
    · exact h
    · rename_i hp
      exact h.append (List.nodup_singleton p) (List.disjoint_singleton.mpr hp)

/-! ## Conditions -/

theorem filterMap_equatedColumns_comparisons (p : Predicate) :
    (comparisons p).filterMap equatedColumns = p.conjuncts.filterMap equated? := by
  rw [comparisons, List.filterMap_filterMap]
  rfl

/-- What the keys of comparisons are made of does not depend on their names. -/
theorem of_map_equatedColumns {cs ds : List Comparison}
    (h : cs.map equatedColumns = ds.map equatedColumns) :
    cs.filterMap equatedColumns = ds.filterMap equatedColumns ∧ cs.length = ds.length ∧
      cs.any (fun c => (equatedColumns c).isNone) = ds.any fun c => (equatedColumns c).isNone := by
  refine ⟨?_, ?_, ?_⟩
  · simpa only [List.filterMap_map, Function.id_comp] using congrArg (List.filterMap id) h
  · simpa only [List.length_map] using congrArg List.length h
  · simpa only [List.any_map, Function.comp_def] using congrArg (List.any · Option.isNone) h

theorem eraseDups_eq_nil {ps : List KeyPair} : ps.eraseDups = [] ↔ ps = [] := by
  cases ps <;> simp [List.eraseDups_cons]

/-- A condition has keys when each of its equalities makes a pair and there is one. The keys are
these pairs, each once. -/
theorem ofCondition_eq_ok {on : JoinCondition} {keys : JoinKeys} :
    ofCondition on left right = .ok keys ↔
      ∃ ps : List KeyPair, ps ≠ [] ∧
        (on.predicate.conjuncts.filterMap equated?).map (pairFor left right) = ps.map some ∧
        ⟨ps.eraseDups, hasRest on.predicate⟩ = keys := by
  simp only [ofCondition, length_leaves_normalize]
  rw [← filterMap_equatedColumns_comparisons]
  cases hcs : candidates on.predicate.normalize on.content with
  | error e =>
    have hnone := comparisons_of_candidates_error hcs
    refine iff_of_false (fun h => by cases h) ?_
    rintro ⟨ps, hne, hps, -⟩
    rw [hnone] at hps
    exact hne (List.map_eq_nil_iff.mp hps.symm)
  | ok cs =>
    obtain ⟨hfilter, hlength, hany⟩ := of_map_equatedColumns (map_equatedColumns_of_candidates hcs)
    rw [Outcome.bind_eq_ok, hasRest, ← hfilter, ← hlength, ← hany]
    constructor
    · rintro ⟨_, hcs', h⟩
      cases hcs'
      obtain ⟨found, hfound, h⟩ := Outcome.bind_eq_ok.mp h
      obtain ⟨ps, hps, rfl⟩ := collect_eq_ok.mp hfound
      rw [foldl_addPair] at h
      split at h
      · cases h
      · rename_i hne
        exact ⟨ps, fun hnil => hne (by rw [hnil]; rfl), hps, Except.ok.inj h⟩
    · rintro ⟨ps, hne, hps, rfl⟩
      refine ⟨cs, rfl, Outcome.bind_eq_ok.mpr ⟨_, collect_eq_ok.mpr ⟨ps, hps, rfl⟩, ?_⟩⟩
      rw [foldl_addPair, if_neg]
      rw [List.isEmpty_iff, eraseDups_eq_nil]
      exact hne

/-! ## What is left over -/

theorem length_filterMap_comparison?_le : (ps : List Predicate) →
    (ps.filterMap comparison?).length ≤ (ps.flatMap leaves).length
  | [] => Nat.le_refl 0
  | .leaf c :: ps => Nat.succ_le_succ (length_filterMap_comparison?_le ps)
  | .node name connective children :: ps => by
    have ih := length_filterMap_comparison?_le ps
    rw [List.filterMap_cons_none rfl, List.flatMap_cons, List.length_append]
    omega

/-- There are more comparisons within some predicates than among them when one of the predicates is
a node. -/
theorem length_filterMap_comparison?_lt_iff : (ps : List Predicate) → (∀ p ∈ ps, p.Filled) →
    ((ps.filterMap comparison?).length < (ps.flatMap leaves).length ↔
      ∃ p ∈ ps, p.comparison? = none)
  | [], _ => by simp
  | .leaf c :: ps, h => by
    have ih := length_filterMap_comparison?_lt_iff ps fun p hp => h p (List.mem_cons_of_mem _ hp)
    simp only [List.mem_cons, exists_eq_or_imp]
    rw [or_iff_right nofun, ← ih]
    exact Nat.succ_lt_succ_iff
  | .node name connective children :: ps, h => by
    have hle := length_filterMap_comparison?_le ps
    have hpos := List.length_pos_iff.mpr (h _ List.mem_cons_self).leaves_ne_nil
    refine iff_of_true ?_ ⟨_, List.mem_cons_self, rfl⟩
    rw [List.filterMap_cons_none rfl, List.flatMap_cons, List.length_append]
    omega

/-- The keys cover a condition when that demands nothing but equalities of columns. -/
theorem hasRest_eq_false_iff {p : Predicate} (h : p.Filled) :
    hasRest p = false ↔ p.OnlyEqualities := by
  have hcount := length_filterMap_comparison?_lt_iff p.conjuncts fun q hq =>
    Filled.of_mem_conjuncts p h hq
  rw [flatMap_leaves_conjuncts] at hcount
  rw [hasRest, Bool.or_eq_false_iff, decide_eq_false_iff_not, comparisons, hcount,
    List.any_eq_false, onlyEqualities_iff]
  constructor
  · rintro ⟨hleaf, hequal⟩ q hq
    cases hc : q.comparison? with
    | none => exact absurd ⟨q, hq, hc⟩ hleaf
    | some c =>
      have hsome := hequal c (List.mem_filterMap.mpr ⟨q, hq, hc⟩)
      rw [← isSome_equated?, equated?, hc]
      simpa [Option.isSome_iff_ne_none] using hsome
  · intro h
    constructor
    · rintro ⟨q, hq, hc⟩
      have hsome := h q hq
      simp [← isSome_equated?, equated?, hc] at hsome
    · intro c hc
      obtain ⟨q, hq, hqc⟩ := List.mem_filterMap.mp hc
      have hsome := h q hq
      simpa [← isSome_equated?, equated?, hqc, Option.isSome_iff_ne_none] using hsome

end JoinKeys

end JoinPlan
