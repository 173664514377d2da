import JoinPlan.Proofs.Join.Leaves
import Mathlib.Data.List.Nodup

/-!
# The columns that a join lists

A join lists the columns of its tables under the names that references to them get, where no alias is
empty or starts with a dot. A listed name is that of a reference when the tables answer to different
names.
-/

namespace JoinPlan

/-! ## Listed names -/

namespace Leaf

/-- The name under which a join lists a column of the table. -/
def listedName (leaf : Leaf) (column : String) : String :=
  match leaf.onRight, leaf.table.asName with
  | true, some qualifier => qualifier ++ "." ++ column
  | _, _ => column

/-- Whether the table has a column that is listed under the name. -/
def Lists (leaf : Leaf) (name : String) : Prop :=
  ∃ column ∈ leaf.table.columns, leaf.listedName column = name

end Leaf

namespace Source

/-- The columns that a join lists for a side of it. -/
def namesOnSide (s : Source) (onRight : Bool) : NameSet :=
  if onRight then namesOnRight s.asName? s.columnNames else s.columnNames

theorem mem_namesOnRight {qualifier x : String} {names : NameSet} :
    x ∈ (namesOnRight (some qualifier) names).keys ↔
      ∃ n ∈ names.keys, (if '.' ∈ n.toList then n else qualifier ++ "." ++ n) = x := by
  rw [namesOnRight, NameSet.mem_keys_ofList, List.mem_map]

theorem mem_namesOnSide_stream {t : Table} {filters : List Predicate} {onRight : Bool} {x : String}
    (hdot : DotFree t.columns) :
    x ∈ ((Source.stream t filters).namesOnSide onRight).keys ↔
      (⟨t, true, onRight, 0⟩ : Leaf).Lists x := by
  obtain ⟨name, asName, columns⟩ := t
  cases onRight with
  | false => simp [namesOnSide, columnNames, NameSet.mem_keys_ofList, Leaf.Lists, Leaf.listedName]
  | true =>
    cases asName with
    | none =>
      simp [namesOnSide, asName?, namesOnRight, columnNames, NameSet.mem_keys_ofList, Leaf.Lists,
        Leaf.listedName]
    | some qualifier =>
      have hnames : ∀ n ∈ columns, (if '.' ∈ n.toList then n else qualifier ++ "." ++ n) =
          qualifier ++ "." ++ n := fun n hn => if_neg (hdot n hn)
      simp only [namesOnSide, if_true, asName?, mem_namesOnRight, columnNames,
        NameSet.mem_keys_ofList, Leaf.Lists, Leaf.listedName]
      exact exists_congr fun n => and_congr_right fun hn => by rw [hnames n hn]

/-- A table that rows are looked up in has its alias in the names already. -/
theorem mem_namesOnRight_qualifiedNames {t : Table} {x : String} :
    x ∈ (namesOnRight t.asName (.ofList t.qualifiedNames)).keys ↔
      (⟨t, false, true, 0⟩ : Leaf).Lists x := by
  obtain ⟨name, asName, columns⟩ := t
  cases asName with
  | none =>
    simp [namesOnRight, Table.qualifiedNames, NameSet.mem_keys_ofList, Leaf.Lists, Leaf.listedName]
  | some qualifier =>
    simp [mem_namesOnRight, Table.qualifiedNames, NameSet.mem_keys_ofList, Leaf.Lists,
      Leaf.listedName]

/-- What a join lists for a side are the columns of the tables of the side. -/
theorem mem_namesOnSide {s : Source} {onRight : Bool} {x : String}
    (hdot : ∀ leaf ∈ s.leaves onRight, DotFree leaf.table.columns)
    (hstream : ∀ leaf ∈ s.leaves onRight, leaf.isStream = true ∨ leaf.onRight = true) :
    x ∈ (s.namesOnSide onRight).keys ↔ ∃ leaf ∈ s.leaves onRight, leaf.Lists x := by
  induction s generalizing onRight with
  | stream t =>
    rw [leaves, List.forall_mem_singleton] at hdot
    rw [leaves, mem_namesOnSide_stream hdot]
    simp
  | dimension t | lateral t =>
    rw [leaves, List.forall_mem_singleton] at hstream
    obtain rfl : onRight = true := by simpa using hstream
    rw [leaves]
    exact mem_namesOnRight_qualifiedNames.trans (by simp)
  | join left right kind on ihleft ihright =>
    rw [leaves, List.forall_mem_map, List.forall_mem_append] at hdot hstream
    have hnames : ((Source.join left right kind on).namesOnSide onRight) =
        (left.namesOnSide false).union (right.namesOnSide true) := by
      cases onRight <;> rfl
    rw [hnames, NameSet.mem_keys_union, ihleft hdot.1 hstream.1, ihright hdot.2 hstream.2, leaves]
    simp only [List.mem_map, List.mem_append, exists_exists_and_eq_and, or_and_right, exists_or]
    rfl

end Source

namespace Join

theorem mem_columnNames {j : Join} {x : String}
    (hdot : ∀ leaf ∈ j.leaves, DotFree leaf.table.columns)
    (hstream : ∀ leaf ∈ j.leaves, leaf.isStream = true ∨ leaf.onRight = true) :
    x ∈ j.toSource.columnNames.keys ↔ ∃ leaf ∈ j.leaves, leaf.Lists x := by
  have hnames : j.toSource.columnNames =
      (j.left.namesOnSide false).union (j.right.namesOnSide true) := rfl
  rw [leaves, List.forall_mem_append] at hdot hstream
  rw [hnames, NameSet.mem_keys_union, Source.mem_namesOnSide hdot.1 hstream.1,
    Source.mem_namesOnSide hdot.2 hstream.2, leaves]
  simp only [List.mem_append, or_and_right, exists_or]

end Join

/-! ## Names of references -/

/-- Whether a table has no alias, or one that starts with a character other than a dot. -/
def Table.PlainAlias (t : Table) : Prop :=
  ∀ qualifier ∈ t.asName, qualifier ≠ "" ∧ qualifier.toList.head? ≠ some '.'

instance (t : Table) : Decidable t.PlainAlias :=
  inferInstanceAs (Decidable (∀ qualifier ∈ t.asName, _ ∧ _))

namespace Leaf

variable {leaf : Leaf} {column : String}

/-- The name of a reference is the listed one, but for dots in front. -/
theorem nameOf_eq_iterate (leaf : Leaf) (column : String) :
    ∃ n, leaf.nameOf column = withoutDot^[n] (leaf.listedName column) := by
  obtain ⟨⟨name, asName, columns⟩, isStream, onRight, depth⟩ := leaf
  cases onRight with
  | false => exact ⟨depth, rfl⟩
  | true =>
    cases asName with
    | none => exact ⟨depth, rfl⟩
    | some qualifier =>
      by_cases hempty : qualifier = ""
      · subst hempty
        refine ⟨depth + 1, ?_⟩
        rw [Function.iterate_succ_apply]
        show _ = withoutDot^[depth] (withoutDot ("" ++ "." ++ column))
        rw [String.empty_append, withoutDot_dot_append]
        rfl
      · refine ⟨depth, ?_⟩
        rw [nameOf, if_pos rfl, Table.nameOnRight, Table.alias?,
          Option.filter_some_pos (by simpa using hempty)]
        rfl

/-- A listed name does not start with a dot if the alias does not. -/
theorem withoutDot_listedName (hdot : '.' ∉ column.toList) (hplain : leaf.table.PlainAlias) :
    withoutDot (leaf.listedName column) = leaf.listedName column := by
  unfold listedName
  split
  · rename_i qualifier _ halias
    obtain ⟨hne, hhead⟩ := hplain qualifier halias
    refine if_neg ?_
    cases hq : qualifier.toList with
    | nil => exact absurd (String.toList_eq_nil_iff.mp hq) hne
    | cons c cs => simpa [hq] using hhead
  · exact withoutDot_of_dotFree hdot

theorem nameOf_eq_listedName (hdot : '.' ∉ column.toList) (hplain : leaf.table.PlainAlias) :
    leaf.nameOf column = leaf.listedName column := by
  obtain ⟨n, hn⟩ := leaf.nameOf_eq_iterate column
  rw [hn, Function.iterate_fixed (withoutDot_listedName hdot hplain)]

end Leaf

namespace Join

variable {j : Join}

/-- The name of a reference is that of a column of some table. -/
theorem exists_leaf_of_columnText (hdot : ∀ leaf ∈ j.leaves, DotFree leaf.table.columns)
    {raw x : String} (h : j.columnText raw = some x) :
    ∃ leaf ∈ j.leaves, ∃ column ∈ leaf.table.columns, leaf.nameOf column = x := by
  rw [columnText_eq_findSome? hdot] at h
  obtain ⟨leaf, hleaf, hanswer⟩ := List.exists_of_findSome?_eq_some h
  obtain ⟨column, hoffers, hname⟩ := (Leaf.answer?_eq_some (hdot leaf hleaf)).mp hanswer
  exact ⟨leaf, hleaf, column, hoffers.1, hname⟩

/-- Behind the name that its table alone answers to, a column is the one that a reference means. -/
theorem columnText_answer (hdot : ∀ leaf ∈ j.leaves, DotFree leaf.table.columns)
    (hnodup : (j.leaves.map (·.table.answer)).Nodup) {leaf : Leaf} (hleaf : leaf ∈ j.leaves)
    (hanswer : '.' ∉ leaf.table.answer.toList) {column : String}
    (hcolumn : column ∈ leaf.table.columns) :
    j.columnText (leaf.table.answer ++ "." ++ column) = some (leaf.nameOf column) := by
  have hsplit : splitQualifier (leaf.table.answer ++ "." ++ column) =
      (some leaf.table.answer, column) := splitQualifier_append hanswer
  have hown : leaf.answer? (leaf.table.answer ++ "." ++ column) = some (leaf.nameOf column) :=
    (Leaf.answer?_eq_some (hdot leaf hleaf)).mpr ⟨column, ⟨hcolumn, Or.inr hsplit⟩, rfl⟩
  rw [columnText_eq_findSome? hdot]
  cases hfirst : j.leaves.findSome? (·.answer? (leaf.table.answer ++ "." ++ column)) with
  | none =>
    have hnone := List.findSome?_eq_none_iff.mp hfirst leaf hleaf
    rw [hown] at hnone
    cases hnone
  | some x =>
    obtain ⟨other, hother, hx⟩ := List.exists_of_findSome?_eq_some hfirst
    obtain ⟨name, ⟨-, hmeant⟩, -⟩ := (Leaf.answer?_eq_some (hdot other hother)).mp hx
    have hsame : other.table.answer = leaf.table.answer := by
      rcases hmeant with hmeant | hmeant
      · rw [hsplit] at hmeant
        cases hmeant
      · rw [hsplit] at hmeant
        exact (Option.some.inj (Prod.mk.inj hmeant).1).symm
    obtain rfl : other = leaf := List.inj_on_of_nodup_map hnodup hother hleaf hsame
    exact hx.symm.trans hown

/-- References get listed names, but for dots in front. Where no alias is empty or starts with a dot
they get the listed names themselves, and all of them when the tables answer to different names. -/
theorem columnText_mem_columnNames (hdot : ∀ leaf ∈ j.leaves, DotFree leaf.table.columns)
    (hstream : ∀ leaf ∈ j.leaves, leaf.isStream = true ∨ leaf.onRight = true) :
    (∀ raw x, j.columnText raw = some x →
      ∃ name ∈ j.toSource.columnNames.keys, ∃ n, x = withoutDot^[n] name) ∧
    ((∀ leaf ∈ j.leaves, leaf.table.PlainAlias) →
      (∀ raw x, j.columnText raw = some x → x ∈ j.toSource.columnNames.keys) ∧
      ((j.leaves.map (·.table.answer)).Nodup → DotFree (j.leaves.map (·.table.answer)) →
        ∀ name ∈ j.toSource.columnNames.keys, ∃ raw, j.columnText raw = some name)) := by
  refine ⟨fun raw x h => ?_, fun hplain => ⟨fun raw x h => ?_, fun hnodup hanswers name hname => ?_⟩⟩
  · obtain ⟨leaf, hleaf, column, hcolumn, rfl⟩ := exists_leaf_of_columnText hdot h
    obtain ⟨n, hn⟩ := leaf.nameOf_eq_iterate column
    exact ⟨_, (mem_columnNames hdot hstream).mpr ⟨leaf, hleaf, column, hcolumn, rfl⟩, n, hn⟩
  · obtain ⟨leaf, hleaf, column, hcolumn, rfl⟩ := exists_leaf_of_columnText hdot h
    rw [Leaf.nameOf_eq_listedName (hdot leaf hleaf column hcolumn) (hplain leaf hleaf)]
    exact (mem_columnNames hdot hstream).mpr ⟨leaf, hleaf, column, hcolumn, rfl⟩
  · obtain ⟨leaf, hleaf, column, hcolumn, rfl⟩ := (mem_columnNames hdot hstream).mp hname
    have hanswer : '.' ∉ leaf.table.answer.toList :=
      hanswers _ (List.mem_map_of_mem hleaf)
    rw [← Leaf.nameOf_eq_listedName (hdot leaf hleaf column hcolumn) (hplain leaf hleaf)]
    exact ⟨_, columnText_answer hdot hnodup hleaf hanswer hcolumn⟩

/-! ### Orders with their rates -/

def rates : Table := ⟨"rates", some "x", ["id", "rate"]⟩

/-- Orders, for which rates are looked up, and the customers with their regions. -/
def ratedCustomers : Join where
  left := .join (.stream orders []) (.dimension rates) .left none
  right := (customersByRegion "r").right
  kind := .inner
  on := none

theorem columnText_mem_columnNames_ratedCustomers :
    ratedCustomers.toSource.columnNames.keys =
        ["id", "r.id", "r.name", "region", "x.id", "x.rate"] ∧
      ∀ name, name ∈ ratedCustomers.toSource.columnNames.keys ↔
        ∃ raw, ratedCustomers.columnText raw = some name := by
  have hdot : ∀ leaf ∈ ratedCustomers.leaves, DotFree leaf.table.columns := by decide +kernel
  have hstream : ∀ leaf ∈ ratedCustomers.leaves, leaf.isStream = true ∨ leaf.onRight = true := by
    decide +kernel
  have hplain : ∀ leaf ∈ ratedCustomers.leaves, leaf.table.PlainAlias := by decide +kernel
  obtain ⟨-, hlisted⟩ := columnText_mem_columnNames hdot hstream
  obtain ⟨hmem, hall⟩ := hlisted hplain
  refine ⟨by decide +kernel, fun name => ⟨hall (by decide +kernel) (by decide +kernel) name, ?_⟩⟩
  rintro ⟨raw, h⟩
  exact hmem raw name h

/-- Orders with their regions, and customers. The alias of the regions starts with a dot. -/
def dottedRegions : Join where
  left := .join (.stream orders []) (.stream (regions ".r") []) .inner none
  right := .stream customers []
  kind := .inner
  on := none

/-- A reference gets a name that is not listed where an alias starts with a dot. -/
theorem columnText_not_listed :
    (∀ leaf ∈ dottedRegions.leaves, DotFree leaf.table.columns ∧ leaf.isStream = true) ∧
      dottedRegions.columnText "name" = some "r.name" ∧
      "r.name" ∉ dottedRegions.toSource.columnNames.keys := by
  decide +kernel

end Join

end JoinPlan
