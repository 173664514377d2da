import JoinPlan.Proofs.Join.Names
import Mathlib.Logic.Function.Iterate

/-!
# Names through nested joins

A join of joins answers a reference like a list of tables: the first table from the left that has the
column and answers to the qualifier gives the name. Only a table on the right of its join puts its
alias before the name. A name is read again in every join around that one, which takes a dot in front
of it away.
-/

namespace JoinPlan

/-! ## Tables of a source -/

/-- A table in a tree of joins, and where it stands there. -/
structure Leaf where
  table : Table
  /-- Whether rows are read from the table, and not looked up in it or made by it. -/
  isStream : Bool
  /-- Whether the table is the right side of a join. -/
  onRight : Bool
  /-- How many joins there are around the one that the table is a side of. -/
  depth : Nat

/-- The leaf with one more join around it. -/
def Leaf.deeper (leaf : Leaf) : Leaf :=
  { leaf with depth := leaf.depth + 1 }

/-- The tables of a side of a join, from left to right. -/
def Source.leaves (onRight : Bool) : Source → List Leaf
  | .stream t _ => [⟨t, true, onRight, 0⟩]
  | .dimension t | .lateral t _ _ => [⟨t, false, onRight, 0⟩]
  | .join left right _ _ => (left.leaves false ++ right.leaves true).map Leaf.deeper

/-- The tables of a join, from left to right. -/
def Join.leaves (j : Join) : List Leaf :=
  j.left.leaves false ++ j.right.leaves true

/-- A name without the dot in front of it, if there is one. -/
def withoutDot (name : String) : String :=
  if name.toList.head? = some '.' then String.ofList name.toList.tail else name

/-- The name behind all joins of a column of the table. -/
def Leaf.nameOf (leaf : Leaf) (column : String) : String :=
  withoutDot^[leaf.depth] (if leaf.onRight then leaf.table.nameOnRight column else column)

/-- The name behind all joins of the column that a reference means, if the table has it. -/
def Leaf.answer? (leaf : Leaf) (raw : String) : Option String :=
  (leaf.table.scope.resolve raw).map fun c => leaf.nameOf c.name

/-! ## Dots in front of names -/

theorem withoutDot_of_dotFree {name : String} (h : '.' ∉ name.toList) : withoutDot name = name :=
  if_neg fun hhead => h (List.mem_of_head? hhead)

theorem withoutDot_append {qualifier name : String} (hdot : '.' ∉ qualifier.toList)
    (hne : qualifier ≠ "") :
    withoutDot (qualifier ++ "." ++ name) = qualifier ++ "." ++ name := by
  refine if_neg ?_
  cases hq : qualifier.toList with
  | nil => exact absurd (String.toList_eq_nil_iff.mp hq) hne
  | cons c cs =>
    rw [hq, List.mem_cons, not_or] at hdot
    simpa [hq] using hdot.1 ∘ Eq.symm

theorem withoutDot_dot_append (name : String) : withoutDot ("." ++ name) = name := by
  simp [withoutDot]

/-- What is read from a name has lost the dot in front of it. -/
theorem Column.text_parse_eq (raw : String) : (Column.parse raw).text = withoutDot raw := by
  rcases dotFree_or_qualified raw with h | ⟨qualifier, name, h, rfl⟩
  · rw [parse_of_dotFree h, withoutDot_of_dotFree h]
    rfl
  · rw [parse_append h]
    by_cases hempty : qualifier = ""
    · rw [hempty, text_qualified_empty, String.empty_append, withoutDot_dot_append]
    · rw [text_qualified hempty, withoutDot_append h hempty]

/-! ## Joins of scopes -/

theorem Scope.resolve_of_dotFree {raw : String} (s : Scope) (h : '.' ∉ raw.toList) :
    s.resolve raw = (s.lookup none raw).map Column.parse := by
  simp only [resolve, splitQualifier_of_dotFree h]

theorem Scope.resolve_qualified {qualifier name : String} (s : Scope)
    (h : '.' ∉ qualifier.toList) :
    s.resolve (qualifier ++ "." ++ name) =
      if s.accepts qualifier then (s.lookup (some qualifier) name).map Column.parse else none := by
  simp only [resolve, splitQualifier_append h]

/-- A join answers a reference with a column that is read from the name that its sides give. -/
theorem resolve_joinScope (left right : Scope) (raw : String) :
    (Source.joinScope left right).resolve raw =
      ((resolveEither raw left right).map Column.text).map Column.parse := by
  rcases dotFree_or_qualified raw with h | ⟨qualifier, name, h, rfl⟩
  · exact Scope.resolve_of_dotFree _ h
  · have haccepts : (Source.joinScope left right).accepts qualifier =
        (left.accepts qualifier || right.accepts qualifier) := rfl
    rw [Scope.resolve_qualified _ h, haccepts]
    split
    · rfl
    · rename_i hnot
      rw [Bool.or_eq_true, not_or] at hnot
      have hleft : left.resolve (qualifier ++ "." ++ name) = none := by
        rw [Scope.resolve_qualified _ h, if_neg hnot.1]
      have hright : right.resolve (qualifier ++ "." ++ name) = none := by
        rw [Scope.resolve_qualified _ h, if_neg hnot.2]
      simp only [resolveEither, hleft, hright, Option.map_none]

theorem ofRightSide_none (c : Column) : ofRightSide none c = c := by
  unfold ofRightSide
  cases c.isQualified <;> rfl

/-! ## Sides -/

/-- The name in a join of the column that a reference means on a side of it. -/
def Source.nameOnSide (s : Source) (onRight : Bool) (raw : String) : Option String :=
  (s.scope.resolve raw).map fun c => (if onRight then ofRightSide s.scope.asName c else c).text

theorem Join.columnText_eq_or (j : Join) (raw : String) :
    j.columnText raw = (j.left.nameOnSide false raw).or (j.right.nameOnSide true raw) := by
  unfold columnText resolve resolveEither Source.nameOnSide
  cases j.left.scope.resolve raw with
  | some c => rfl
  | none => simp [Function.comp_def]

theorem Leaf.answer?_deeper (leaf : Leaf) (raw : String) :
    leaf.deeper.answer? raw = (leaf.answer? raw).map withoutDot := by
  rw [answer?, answer?, Option.map_map]
  refine Option.map_congr fun c _ => ?_
  exact Function.iterate_succ_apply' withoutDot leaf.depth _

theorem Source.nameOnSide_join (left right : Source) (kind : JoinKind) (on : Option JoinCondition)
    (onRight : Bool) (raw : String) :
    (Source.join left right kind on).nameOnSide onRight raw =
      ((left.nameOnSide false raw).or (right.nameOnSide true raw)).map withoutDot := by
  have hsides : (left.nameOnSide false raw).or (right.nameOnSide true raw) =
      (resolveEither raw left.scope right.scope).map Column.text :=
    ((⟨left, right, kind, on⟩ : Join).columnText_eq_or raw).symm
  have hnone : (Source.join left right kind on).scope.asName = none := rfl
  rw [hsides, nameOnSide, hnone, scope, resolve_joinScope, Option.map_map]
  refine Option.map_congr fun x _ => ?_
  rw [Function.comp_apply, ofRightSide_none, ite_self, Column.text_parse_eq]

/-- A table gives the name under which the join around it has the column. -/
theorem Table.map_resolve {t : Table} (hdot : DotFree t.columns) (onRight : Bool) (raw : String) :
    (t.scope.resolve raw).map (fun c => (if onRight then ofRightSide t.asName c else c).text) =
      (t.scope.resolve raw).map fun c => if onRight then t.nameOnRight c.name else c.name := by
  refine Option.map_congr fun c hc => ?_
  obtain ⟨name, -, rfl⟩ := resolve_of_dotFree hdot hc
  cases onRight with
  | false => rfl
  | true => exact text_ofRightSide t name

/-- A side of a join answers like its tables do one after the other. -/
theorem Source.nameOnSide_eq {s : Source} {onRight : Bool} (raw : String)
    (hdot : ∀ leaf ∈ s.leaves onRight, DotFree leaf.table.columns) :
    s.nameOnSide onRight raw = (s.leaves onRight).findSome? (·.answer? raw) := by
  induction s generalizing onRight with
  | stream t | dimension t | lateral t =>
    rw [leaves, List.forall_mem_singleton] at hdot
    rw [leaves, List.findSome?_singleton]
    exact Table.map_resolve hdot onRight raw
  | join left right kind on ihleft ihright =>
    rw [leaves, List.forall_mem_map, List.forall_mem_append] at hdot
    rw [nameOnSide_join, ihleft hdot.1, ihright hdot.2, ← List.findSome?_append, List.map_findSome?,
      leaves, List.findSome?_map]
    congr 1
    funext leaf
    exact (leaf.answer?_deeper raw).symm

/-! ## The first table -/

namespace Leaf

variable {leaf : Leaf} {raw name : String}

theorem answer?_eq_some (hdot : DotFree leaf.table.columns) {x : String} :
    leaf.answer? raw = some x ↔ ∃ name, leaf.table.Offers raw name ∧ leaf.nameOf name = x := by
  rw [answer?, Option.map_eq_some_iff]
  constructor
  · rintro ⟨c, hc, rfl⟩
    obtain ⟨name, hname, hmeant, rfl⟩ := Table.resolve_eq_some.mp hc
    rw [Column.parse_of_dotFree (hdot name hname)]
    exact ⟨name, ⟨hname, hmeant⟩, rfl⟩
  · rintro ⟨name, hoffers, rfl⟩
    exact ⟨_, Table.resolve_of_offers hdot hoffers, rfl⟩

theorem answer?_eq_none : leaf.answer? raw = none ↔ ∀ name, ¬leaf.table.Offers raw name := by
  rw [answer?, Option.map_eq_none_iff, Table.resolve_eq_none_iff]

end Leaf

namespace Join

theorem columnText_eq_findSome? {j : Join}
    (hdot : ∀ leaf ∈ j.leaves, DotFree leaf.table.columns) (raw : String) :
    j.columnText raw = j.leaves.findSome? (·.answer? raw) := by
  rw [leaves, List.forall_mem_append] at hdot
  rw [columnText_eq_or, Source.nameOnSide_eq raw hdot.1, Source.nameOnSide_eq raw hdot.2, leaves,
    List.findSome?_append]

/-- A reference means no column of a join just when no table of the join has the column and answers
to the qualifier. Otherwise the first such table from the left gives the name. -/
theorem columnText_first_leaf {j : Join} (hdot : ∀ leaf ∈ j.leaves, DotFree leaf.table.columns)
    (raw : String) :
    (j.columnText raw = none ↔ ∀ leaf ∈ j.leaves, ∀ name, ¬leaf.table.Offers raw name) ∧
      ∀ x, j.columnText raw = some x ↔ ∃ before leaf after name,
        j.leaves = before ++ leaf :: after ∧ leaf.table.Offers raw name ∧ leaf.nameOf name = x ∧
          ∀ other ∈ before, ∀ n, ¬other.table.Offers raw n := by
  rw [columnText_eq_findSome? hdot]
  constructor
  · rw [List.findSome?_eq_none_iff]
    simp only [Leaf.answer?_eq_none]
  · intro x
    rw [List.findSome?_eq_some_iff]
    simp only [Leaf.answer?_eq_none]
    constructor
    · rintro ⟨before, leaf, after, hleaves, hleaf, hbefore⟩
      have hmem : leaf ∈ j.leaves := hleaves ▸ List.mem_append_right _ List.mem_cons_self
      obtain ⟨name, hoffers, hname⟩ := (Leaf.answer?_eq_some (hdot leaf hmem)).mp hleaf
      exact ⟨before, leaf, after, name, hleaves, hoffers, hname, hbefore⟩
    · rintro ⟨before, leaf, after, name, hleaves, hoffers, hname, hbefore⟩
      have hmem : leaf ∈ j.leaves := hleaves ▸ List.mem_append_right _ List.mem_cons_self
      exact ⟨before, leaf, after, hleaves,
        (Leaf.answer?_eq_some (hdot leaf hmem)).mpr ⟨name, hoffers, hname⟩, hbefore⟩

/-! ### Customers and their regions -/

def customers : Table := ⟨"customers", some "c", ["id", "region"]⟩

def regions (asName : String) : Table := ⟨"regions", some asName, ["id", "name"]⟩

/-- Orders, and the customers with their regions, which have an alias. -/
def customersByRegion (asName : String) : Join where
  left := .stream orders []
  right := .join (.stream customers []) (.stream (regions asName) []) .inner none
  kind := .inner
  on := none

/-- The tables to the left of the regions. -/
def besideRegions : List Leaf :=
  [⟨orders, true, false, 0⟩, ⟨customers, true, false, 1⟩]

theorem leaves_customersByRegion (asName : String) :
    (customersByRegion asName).leaves = besideRegions ++ [⟨regions asName, true, true, 1⟩] := rfl

theorem columnText_first_leaf_customersByRegion :
    (∀ leaf ∈ (customersByRegion "r").leaves, DotFree leaf.table.columns) ∧
      (customersByRegion "r").columnText "name" = some "r.name" ∧
      (customersByRegion "r").columnText "regions.name" = none := by
  have hdot : ∀ leaf ∈ (customersByRegion "r").leaves, DotFree leaf.table.columns := by
    decide +kernel
  have hbefore : ∀ other ∈ besideRegions, other.answer? "name" = none := by decide +kernel
  have hnone : ∀ leaf ∈ (customersByRegion "r").leaves, leaf.answer? "regions.name" = none := by
    decide +kernel
  refine ⟨hdot, ((columnText_first_leaf hdot "name").2 _).mpr ?_,
    (columnText_first_leaf hdot "regions.name").1.mpr fun leaf h => Leaf.answer?_eq_none.mp
      (hnone leaf h)⟩
  exact ⟨_, _, [], "name", leaves_customersByRegion "r", by decide +kernel, by decide +kernel,
    fun other h => Leaf.answer?_eq_none.mp (hbefore other h)⟩

/-- The first table that has a column is on the right of its join, but its alias is not before the
name: the join around that one has taken the dot away that the alias starts with. -/
theorem columnText_of_dotted_alias :
    (∀ leaf ∈ (customersByRegion ".r").leaves, DotFree leaf.table.columns) ∧
      (customersByRegion ".r").leaves = besideRegions ++ [⟨regions ".r", true, true, 1⟩] ∧
      (∀ other ∈ besideRegions, ∀ name, ¬other.table.Offers "name" name) ∧
      (regions ".r").Offers "name" "name" ∧
      (customersByRegion ".r").columnText "name" = some "r.name" ∧
      "r.name" ≠ ".r" ++ "." ++ "name" := by
  have hbefore : ∀ other ∈ besideRegions, other.answer? "name" = none := by decide +kernel
  exact ⟨by decide +kernel, rfl, fun other h => Leaf.answer?_eq_none.mp (hbefore other h),
    by decide +kernel, by decide +kernel, by decide⟩

end Join

end JoinPlan
