import JoinPlan.Predicate.Normal
import JoinPlan.Proofs.NameSupply
import Mathlib.Data.List.Lattice
import Mathlib.Data.List.Nodup
import Mathlib.Data.List.Pairwise

/-!
# Predicates in normal form

A predicate is its own normal form when no node has a child of its own connective and the names
count from left to right. The normal form of every predicate is of this shape, so it has no name
twice and making it again changes nothing.
-/

namespace JoinPlan.Predicate

variable {p q : Predicate} {ps : List Predicate} {connective : Connective}

/-! ## Nodes -/

def connective? : Predicate → Option Connective
  | .leaf _ => none
  | .node _ connective _ => some connective

def comparison? : Predicate → Option Comparison
  | .leaf c => some c
  | .node _ _ _ => none

mutual
/-- The names of the nodes, each before those of the nodes below it. -/
def nodeNames : Predicate → List String
  | .leaf _ => []
  | .node name _ children => name :: nodeNamesOf children

def nodeNamesOf : List Predicate → List String
  | [] => []
  | p :: ps => nodeNames p ++ nodeNamesOf ps
end

/-- Whether no node has a child of its own connective. -/
inductive Flat : Predicate → Prop
  | leaf (c : Comparison) : Flat (.leaf c)
  | node {name : String} {connective : Connective} {ps : List Predicate}
      (hapart : ∀ p ∈ ps, p.connective? ≠ some connective) (hps : ∀ p ∈ ps, Flat p) :
      Flat (.node name connective ps)

/-! ## Flattening -/

theorem leavesOf_append (ps qs : List Predicate) :
    leavesOf (ps ++ qs) = leavesOf ps ++ leavesOf qs := by
  induction ps with
  | nil => rfl
  | cons p ps ih => rw [List.cons_append, leavesOf, leavesOf, ih, List.append_assoc]

theorem leavesOf_partsUnder (connective : Connective) (p : Predicate) :
    leavesOf (partsUnder connective p) = p.leaves := by
  cases p with
  | leaf c => rfl
  | node name inner children =>
    rw [partsUnder]
    split
    · rw [leaves]
    · rw [leavesOf, leavesOf, List.append_nil]

mutual
theorem leaves_flatten : (p : Predicate) → p.flatten.leaves = p.leaves
  | .leaf _ => by rw [flatten]
  | .node _ connective ps => by
    rw [flatten, leaves, leaves, leavesOf_flattenUnder connective ps]

theorem leavesOf_flattenUnder (connective : Connective) : (ps : List Predicate) →
    leavesOf (flattenUnder connective ps) = leavesOf ps
  | [] => rfl
  | p :: ps => by
    rw [flattenUnder, leavesOf_append, leavesOf_partsUnder, leaves_flatten p,
      leavesOf_flattenUnder connective ps, leavesOf]
end

theorem Flat.of_mem_partsUnder (h : p.Flat) (hq : q ∈ partsUnder connective p) :
    q.connective? ≠ some connective ∧ q.Flat := by
  cases h with
  | leaf c =>
    rw [partsUnder, List.mem_singleton] at hq
    subst hq
    exact ⟨(Option.some_ne_none connective).symm, .leaf c⟩
  | @node name inner ps hapart hps =>
    rw [partsUnder] at hq
    split at hq
    · rename_i hsame
      subst hsame
      exact ⟨hapart q hq, hps q hq⟩
    · rename_i hother
      rw [List.mem_singleton] at hq
      subst hq
      exact ⟨mt Option.some.inj hother, .node hapart hps⟩

mutual
theorem flat_flatten : (p : Predicate) → p.flatten.Flat
  | .leaf c => .leaf c
  | .node _ connective ps =>
    .node (fun q hq => (flat_flattenUnder connective ps q hq).1)
      (fun q hq => (flat_flattenUnder connective ps q hq).2)

/-- No child of a node has its connective when all that have it gave way to their own children. -/
theorem flat_flattenUnder (connective : Connective) : (ps : List Predicate) →
    ∀ q ∈ flattenUnder connective ps, q.connective? ≠ some connective ∧ q.Flat
  | [], _, hq => by cases hq
  | p :: ps, q, hq => by
    rw [flattenUnder, List.mem_append] at hq
    rcases hq with hq | hq
    · exact (flat_flatten p).of_mem_partsUnder hq
    · exact flat_flattenUnder connective ps q hq
end

theorem partsUnder_of_connective?_ne (h : p.connective? ≠ some connective) :
    partsUnder connective p = [p] := by
  cases p with
  | leaf c => rfl
  | node name inner children => exact if_neg fun hsame => h (congrArg some hsame)

theorem flattenUnder_eq_self (h : ∀ p ∈ ps, p.connective? ≠ some connective ∧ p.flatten = p) :
    flattenUnder connective ps = ps := by
  induction ps with
  | nil => rfl
  | cons p ps ih =>
    rw [List.forall_mem_cons] at h
    rw [flattenUnder, h.1.2, partsUnder_of_connective?_ne h.1.1, ih h.2, List.singleton_append]

theorem Flat.flatten_eq_self (h : p.Flat) : p.flatten = p := by
  induction h with
  | leaf c => rfl
  | node hapart hps ih =>
    rw [flatten, flattenUnder_eq_self fun p hp => ⟨hapart p hp, ih p hp⟩]

/-! ## Naming -/

def leafName (i : Nat) : String :=
  "leaf_" ++ toString i

def nodeName (i : Nat) : String :=
  "relation_" ++ toString i

theorem label_node (name : String) (connective : Connective) (ps : List Predicate) (n : Named) :
    label (.node name connective ps) n =
      (.node (nodeName n.nodes) connective (labelAll ps ⟨n.leaves, n.nodes + 1⟩).1,
        (labelAll ps ⟨n.leaves, n.nodes + 1⟩).2) := rfl

theorem labelAll_cons (p : Predicate) (ps : List Predicate) (n : Named) :
    labelAll (p :: ps) n =
      ((p.label n).1 :: (labelAll ps (p.label n).2).1, (labelAll ps (p.label n).2).2) := rfl

theorem connective?_label (p : Predicate) (n : Named) :
    (p.label n).1.connective? = p.connective? := by
  cases p <;> rfl

mutual
theorem flat_label : (p : Predicate) → p.Flat → (n : Named) → (p.label n).1.Flat
  | .leaf _, _, _ => .leaf _
  | .node _ connective ps, .node hapart hps, n => by
    have h := flat_labelAll connective ps (fun p hp => ⟨hapart p hp, hps p hp⟩)
      ⟨n.leaves, n.nodes + 1⟩
    exact .node (fun q hq => (h q hq).1) (fun q hq => (h q hq).2)

theorem flat_labelAll (connective : Connective) : (ps : List Predicate) →
    (∀ p ∈ ps, p.connective? ≠ some connective ∧ p.Flat) → (n : Named) →
    ∀ q ∈ (labelAll ps n).1, q.connective? ≠ some connective ∧ q.Flat
  | [], _, _, _, hq => by cases hq
  | p :: ps, h, n, q, hq => by
    rw [List.forall_mem_cons] at h
    rw [labelAll_cons, List.mem_cons] at hq
    rcases hq with rfl | hq
    · exact ⟨connective?_label p n ▸ h.1.1, flat_label p h.1.2 n⟩
    · exact flat_labelAll connective ps h.2 _ q hq
end

mutual
/-- Every comparison takes one name of its kind, and so does every node. -/
theorem named_label : (p : Predicate) → (n : Named) →
    (p.label n).2 = ⟨n.leaves + p.leaves.length, n.nodes + p.nodeNames.length⟩
  | .leaf _, n => rfl
  | .node name _ ps, n => by
    rw [label_node, leaves, nodeNames, named_labelAll ps, List.length_cons, Nat.add_right_comm,
      Nat.add_assoc n.nodes]

theorem named_labelAll : (ps : List Predicate) → (n : Named) →
    (labelAll ps n).2 = ⟨n.leaves + (leavesOf ps).length, n.nodes + (nodeNamesOf ps).length⟩
  | [], n => rfl
  | p :: ps, n => by
    rw [labelAll_cons, leavesOf, nodeNamesOf, named_labelAll ps, named_label p, List.length_append,
      List.length_append, Nat.add_assoc, Nat.add_assoc]
end

mutual
theorem leaves_label : (p : Predicate) → (n : Named) →
    (p.label n).1.leaves = p.leaves.mapIdx fun i c => { c with name := leafName (n.leaves + i) }
  | .leaf _, n => rfl
  | .node _ _ ps, n => by
    rw [label_node, leaves, leaves, leavesOf_labelAll ps]

theorem leavesOf_labelAll : (ps : List Predicate) → (n : Named) →
    leavesOf (labelAll ps n).1 =
      (leavesOf ps).mapIdx fun i c => { c with name := leafName (n.leaves + i) }
  | [], n => rfl
  | p :: ps, n => by
    rw [labelAll_cons, leavesOf, leavesOf, leaves_label p, leavesOf_labelAll ps, named_label p,
      List.mapIdx_append]
    simp only [Nat.add_comm, Nat.add_left_comm]
end

mutual
theorem nodeNames_label : (p : Predicate) → (n : Named) →
    (p.label n).1.nodeNames = (List.range' n.nodes p.nodeNames.length).map nodeName
  | .leaf _, n => rfl
  | .node _ _ ps, n => by
    rw [label_node, nodeNames, nodeNames, nodeNamesOf_labelAll ps, List.length_cons,
      List.range'_succ, List.map_cons]

theorem nodeNamesOf_labelAll : (ps : List Predicate) → (n : Named) →
    nodeNamesOf (labelAll ps n).1 = (List.range' n.nodes (nodeNamesOf ps).length).map nodeName
  | [], n => rfl
  | p :: ps, n => by
    rw [labelAll_cons, nodeNamesOf, nodeNamesOf, nodeNames_label p, nodeNamesOf_labelAll ps,
      named_label p, List.length_append, ← List.range'_append_1, List.map_append]
end

mutual
/-- Names that count from the given numbers already are kept. -/
theorem label_eq_self : (p : Predicate) → (n : Named) →
    p.leaves.map (·.name) = (List.range' n.leaves p.leaves.length).map leafName →
    p.nodeNames = (List.range' n.nodes p.nodeNames.length).map nodeName → (p.label n).1 = p
  | .leaf c, n, hleaves, _ => by
    have hname : c.name = leafName n.leaves := (List.cons.inj hleaves).1
    rw [label, ← leafName, ← hname]
  | .node name connective ps, n, hleaves, hnodes => by
    rw [nodeNames, List.length_cons, List.range'_succ, List.map_cons] at hnodes
    obtain ⟨hname, hnodes⟩ := List.cons.inj hnodes
    rw [label_node, labelAll_eq_self ps ⟨n.leaves, n.nodes + 1⟩ hleaves hnodes, ← hname]

theorem labelAll_eq_self : (ps : List Predicate) → (n : Named) →
    (leavesOf ps).map (·.name) = (List.range' n.leaves (leavesOf ps).length).map leafName →
    nodeNamesOf ps = (List.range' n.nodes (nodeNamesOf ps).length).map nodeName →
    (labelAll ps n).1 = ps
  | [], _, _, _ => rfl
  | p :: ps, n, hleaves, hnodes => by
    rw [leavesOf, List.length_append, ← List.range'_append_1, List.map_append,
      List.map_append] at hleaves
    rw [nodeNamesOf, List.length_append, ← List.range'_append_1, List.map_append] at hnodes
    -- The first predicate takes as many names as it has, and the others go on behind them.
    obtain ⟨hleaves, hleavesOf⟩ := List.append_inj hleaves (by simp)
    obtain ⟨hnodes, hnodesOf⟩ := List.append_inj hnodes (by simp)
    rw [labelAll_cons, label_eq_self p n hleaves hnodes, named_label p,
      labelAll_eq_self ps _ hleavesOf hnodesOf]
end

/-! ## Normal form -/

/-- Whether a predicate has the shape and the names of a normal form. -/
structure IsNormal (p : Predicate) : Prop where
  flat : p.Flat
  leafNames : p.leaves.map (·.name) = (List.range p.leaves.length).map leafName
  nodeNames : p.nodeNames = (List.range p.nodeNames.length).map nodeName

theorem leaves_normalize (p : Predicate) :
    p.normalize.leaves = p.leaves.mapIdx fun i c => { c with name := leafName i } := by
  rw [normalize, leaves_label, leaves_flatten]
  simp only [Nat.zero_add]

theorem length_leaves_normalize (p : Predicate) : p.normalize.leaves.length = p.leaves.length := by
  rw [leaves_normalize, List.length_mapIdx]

theorem isNormal_normalize (p : Predicate) : p.normalize.IsNormal where
  flat := flat_label _ (flat_flatten p) _
  leafNames := by
    rw [leaves_normalize]
    apply List.ext_getElem <;> simp
  nodeNames := by
    rw [normalize, nodeNames_label, List.length_map, List.length_range', List.range_eq_range']

/-- The predicates in normal form are those that making the normal form does not change. -/
theorem normalize_eq_self_iff : p.normalize = p ↔ p.IsNormal := by
  constructor
  · intro h
    rw [← h]
    exact isNormal_normalize p
  · rintro ⟨hflat, hleaves, hnodes⟩
    rw [List.range_eq_range'] at hleaves hnodes
    rw [normalize, hflat.flatten_eq_self]
    exact label_eq_self p ⟨0, 0⟩ hleaves hnodes

/-! ## Names in normal form -/

theorem leafName_eq_numbered (i : Nat) : leafName i = NameSupply.numbered "leaf" i := by
  rw [NameSupply.numbered, show "leaf" ++ "_" = "leaf_" by decide]
  rfl

theorem nodeName_eq_numbered (i : Nat) : nodeName i = NameSupply.numbered "relation" i := by
  rw [NameSupply.numbered, show "relation" ++ "_" = "relation_" by decide]
  rfl

theorem leafName_injective : Function.Injective leafName := by
  intro i j h
  rw [leafName_eq_numbered, leafName_eq_numbered, NameSupply.numbered_inj] at h
  exact h.2

theorem nodeName_injective : Function.Injective nodeName := by
  intro i j h
  rw [nodeName_eq_numbered, nodeName_eq_numbered, NameSupply.numbered_inj] at h
  exact h.2

theorem leafName_ne_nodeName (i j : Nat) : leafName i ≠ nodeName j := by
  rw [leafName_eq_numbered, nodeName_eq_numbered, Ne, NameSupply.numbered_inj]
  exact fun h => absurd h.1 (by decide)

theorem IsNormal.names_nodup (h : p.IsNormal) : (p.leaves.map (·.name) ++ p.nodeNames).Nodup := by
  rw [h.leafNames, h.nodeNames, List.nodup_append]
  refine ⟨List.nodup_range.map leafName_injective, List.nodup_range.map nodeName_injective, ?_⟩
  rintro _ hleaf _ hnode rfl
  obtain ⟨i, -, rfl⟩ := List.mem_map.mp hleaf
  obtain ⟨j, -, h⟩ := List.mem_map.mp hnode
  exact leafName_ne_nodeName i j h.symm

theorem leavesOf_eq_flatMap (ps : List Predicate) : leavesOf ps = ps.flatMap leaves := by
  induction ps with
  | nil => rfl
  | cons p ps ih => rw [leavesOf, ih, List.flatMap_cons]

theorem nodeNamesOf_eq_flatMap (ps : List Predicate) : nodeNamesOf ps = ps.flatMap nodeNames := by
  induction ps with
  | nil => rfl
  | cons p ps ih => rw [nodeNamesOf, ih, List.flatMap_cons]

theorem leaves_subset_of_mem_children (h : q ∈ p.children) : q.leaves ⊆ p.leaves := by
  cases p with
  | leaf c => cases h
  | node name connective ps =>
    rw [leaves, leavesOf_eq_flatMap]
    exact fun c hc => List.mem_flatMap.mpr ⟨q, h, hc⟩

theorem nodeNames_subset_of_mem_children (h : q ∈ p.children) : q.nodeNames ⊆ p.nodeNames := by
  cases p with
  | leaf c => cases h
  | node name connective ps =>
    rw [nodeNames, nodeNamesOf_eq_flatMap]
    exact fun name hname => List.mem_cons_of_mem _ (List.mem_flatMap.mpr ⟨q, h, hname⟩)

/-- A comparison is told by its name, so the names of the children say which comparisons are among
them. -/
theorem IsNormal.name_mem_childNames_iff {c : Comparison} (h : p.IsNormal) (hc : c ∈ p.leaves) :
    c.name ∈ p.childNames ↔ .leaf c ∈ p.children := by
  constructor
  · intro hname
    obtain ⟨q, hq, heq⟩ := List.mem_map.mp hname
    have hnames := List.nodup_append.mp h.names_nodup
    cases q with
    | leaf d =>
      have hd : d ∈ p.leaves := leaves_subset_of_mem_children hq List.mem_cons_self
      rw [← List.inj_on_of_nodup_map hnames.1 hd hc heq]
      exact hq
    | node name connective ps =>
      have hnode := nodeNames_subset_of_mem_children hq List.mem_cons_self
      exact absurd heq.symm (hnames.2.2 _ (List.mem_map_of_mem hc) _ hnode)
  · exact List.mem_map_of_mem

/-- The names of the children pick the comparisons among them. -/
theorem IsNormal.filter_leaves (h : p.IsNormal) :
    p.leaves.filter (·.name ∈ p.childNames) =
      p.children.filterMap comparison? := by
  cases p with
  | leaf c => rfl
  | node name connective ps =>
    have hnodup := (List.nodup_append.mp h.names_nodup).1.of_map
    rw [leaves, leavesOf_eq_flatMap] at hnodup ⊢
    rw [List.filter_flatMap, children, List.filterMap_eq_flatMap_toList]
    refine List.flatMap_congr fun q hq => ?_
    have hmem {c : Comparison} (hc : c ∈ q.leaves) :
        c.name ∈ (Predicate.node name connective ps).childNames ↔ .leaf c ∈ ps :=
      h.name_mem_childNames_iff (leaves_subset_of_mem_children hq hc)
    cases q with
    | leaf c =>
      have hname := (hmem List.mem_cons_self).mpr hq
      simp [leaves, hname, comparison?]
    | node inner below qs =>
      have hne {c : Comparison} : Predicate.node inner below qs ≠ .leaf c := by simp
      rw [comparison?, Option.toList_none, List.filter_eq_nil_iff]
      intro c hc hname
      -- A comparison below a node is not a child as well, as its name would be there twice.
      have : Std.Symm (Function.onFun List.Disjoint leaves) := ⟨fun _ _ => List.Disjoint.symm⟩
      have hchild := (hmem hc).mp (of_decide_eq_true hname)
      exact (List.nodup_flatMap.mp hnodup).2.forall hq hchild hne hc List.mem_cons_self

/-- The normal form of a predicate has no node within another of its connective, and the comparisons
of the predicate in their order. All its names count from left to right, so that none is there twice
and those of the children tell which comparisons are children. It is its own normal form. -/
theorem normalize_canonical (p : Predicate) :
    p.normalize.Flat ∧
    p.normalize.leaves = p.leaves.mapIdx (fun i c => { c with name := leafName i }) ∧
    p.normalize.nodeNames = (List.range p.normalize.nodeNames.length).map nodeName ∧
    (p.normalize.leaves.map (·.name) ++ p.normalize.nodeNames).Nodup ∧
    (∀ c ∈ p.normalize.leaves,
      c.name ∈ p.normalize.childNames ↔ .leaf c ∈ p.normalize.children) ∧
    p.normalize.normalize = p.normalize := by
  have h := isNormal_normalize p
  exact ⟨h.flat, leaves_normalize p, h.nodeNames, h.names_nodup,
    fun c hc => h.name_mem_childNames_iff hc, normalize_eq_self_iff.mpr h⟩

/-- A conjunction within a conjunction, and a disjunction beside it. -/
def openPayments : Predicate :=
  .and [
    .and [
      .compare (.column ⟨some "o", "id"⟩) .eq (.column ⟨some "p", "order_id"⟩),
      .compare (.column ⟨some "o", "region"⟩) .eq (.column ⟨some "p", "region"⟩)],
    .or [
      .compare (.column ⟨some "o", "paid"⟩) .lt (.column ⟨some "o", "amount"⟩),
      .compare (.column ⟨some "p", "amount"⟩) .lt (.literal (.scalar "0" (.int 0)))]]

theorem normalize_canonical_openPayments :
    openPayments.normalize.childNames = ["leaf_0", "leaf_1", "relation_1"] ∧
    openPayments.normalize.nodeNames = ["relation_0", "relation_1"] ∧
    (∃ c ∈ openPayments.normalize.leaves, c.name = "leaf_1" ∧
      (c.name ∈ openPayments.normalize.childNames ↔ .leaf c ∈ openPayments.normalize.children)) ∧
    openPayments.normalize.normalize = openPayments.normalize := by
  obtain ⟨-, -, -, -, hchildren, hagain⟩ := normalize_canonical openPayments
  refine ⟨by decide +kernel, by decide +kernel, ?_, hagain⟩
  have hmem : _ ∈ openPayments.normalize.leaves := .tail _ (.head _)
  exact ⟨_, hmem, by decide +kernel, hchildren _ hmem⟩

end JoinPlan.Predicate
