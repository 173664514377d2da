import JoinPlan.Proofs.Predicate.Nulls
import JoinPlan.Statement.Basic

/-!
# Predicates on groups

A predicate on groups is taken when each of its columns agrees with a column of a group: it is that
column, or the two have one name and only one of them has a qualifier. The predicate is kept as it
is. So in the second case it may read a key that no group has, and a comparison that does is not
satisfied.
-/

namespace JoinPlan

/-- Columns agree when they are the same or when they have one name and one of them no qualifier. -/
theorem Column.agrees_iff {a b : Column} :
    a.agrees b = true ↔ a = b ∨ a.name = b.name ∧ a.isQualified ≠ b.isQualified := by
  obtain ⟨p, m⟩ := a
  obtain ⟨q, n⟩ := b
  cases p <;> cases q <;> simp [agrees, isQualified, and_comm]

namespace GroupedQuery

variable {q : GroupedQuery} {having : Predicate} {kept : HavingQuery} {row : Row} {c : Column}

/-- Whether a group has a column of that name and just one of the two has a qualifier. -/
def NearlyProduces (q : GroupedQuery) (c : Column) : Prop :=
  ∃ o ∈ q.outputs, o.name = c.name ∧ o.isQualified ≠ c.isQualified

instance (q : GroupedQuery) (c : Column) : Decidable (q.NearlyProduces c) :=
  inferInstanceAs (Decidable (∃ o ∈ q.outputs, o.name = c.name ∧ o.isQualified ≠ c.isQualified))

/-- Whether a row has just the columns of a group. -/
def IsGroup (q : GroupedQuery) (row : Row) : Prop :=
  ∀ key, row.contains key = true ↔ ∃ o ∈ q.outputs, o.text = key

theorem produces_iff : q.produces c = true ↔ c ∈ q.outputs ∨ q.NearlyProduces c := by
  simp only [produces, List.any_eq_true, Column.agrees_iff, NearlyProduces]
  constructor
  · rintro ⟨o, ho, rfl | hnear⟩
    · exact Or.inl ho
    · exact Or.inr ⟨o, ho, hnear⟩
  · rintro (hc | ⟨o, ho, hnear⟩)
    · exact ⟨c, hc, Or.inl rfl⟩
    · exact ⟨o, ho, Or.inr hnear⟩

theorem withHaving_eq_ok :
    q.withHaving having = .ok kept ↔
      (∀ c ∈ having.columns, q.produces c = true) ∧ kept.grouped = q ∧ kept.having = having := by
  obtain ⟨grouped, predicate, produced⟩ := kept
  unfold withHaving
  split
  · rename_i c hfind
    refine iff_of_false nofun fun ⟨hall, _⟩ => ?_
    have hnot := List.find?_some hfind
    rw [hall c (List.mem_of_find?_eq_some hfind)] at hnot
    cases hnot
  · rename_i hfind
    constructor
    · rintro ⟨⟩
      exact ⟨produced, rfl, rfl⟩
    · rintro ⟨-, rfl, rfl⟩
      rfl

/-- A predicate on groups is taken just when each of its columns is a column of a group, but for a
qualifier that one of the two does not have. On a group it reads only missing keys of the latter
kind, and it is not satisfied when a part that is a comparison reads one. -/
theorem withHaving_reads (q : GroupedQuery) (having : Predicate) :
    ((∃ kept, q.withHaving having = .ok kept) ↔
        ∀ c ∈ having.columns, c ∈ q.outputs ∨ q.NearlyProduces c) ∧
      ∀ kept row, q.withHaving having = .ok kept → q.IsGroup row →
        (∀ c ∈ kept.having.columns, row.contains c.text = false → q.NearlyProduces c) ∧
        ∀ comparison, .leaf comparison ∈ kept.having.conjuncts →
          ∀ c ∈ comparison.columns, row.contains c.text = false →
            kept.having.accepts row = false := by
  constructor
  · simp only [withHaving_eq_ok, produces_iff]
    constructor
    · rintro ⟨_, hall, -⟩
      exact hall
    · intro hall
      exact ⟨⟨q, having, fun c hc => produces_iff.mpr (hall c hc)⟩, hall, rfl, rfl⟩
  · intro kept row h hrow
    obtain ⟨hall, -, rfl⟩ := withHaving_eq_ok.mp h
    refine ⟨fun c hc habsent => ?_, fun comparison hpart c hc habsent => ?_⟩
    · rcases produces_iff.mp (hall c hc) with hout | hnear
      · rw [(hrow c.text).mpr ⟨c, hout, rfl⟩] at habsent
        cases habsent
      · exact hnear
    · exact Predicate.accepts_of_null_part hpart hc (Row.valueAt_of_absent habsent)

/-- Orders and their payments, grouped by the id of the order. -/
def paymentsById : GroupedQuery where
  join := ⟨"", ⟨"orders", none⟩, ⟨"payments", some "p"⟩, .inner, none, []⟩
  before := none
  after := none
  keys := [⟨some "orders", "id"⟩]

/-- The group of the order with the id 2. -/
def secondOrder : Row :=
  Dict.empty.insert "orders.id" (.int 2)

theorem isGroup_secondOrder : paymentsById.IsGroup secondOrder := by
  intro key
  have houtputs : paymentsById.outputs = [⟨some "orders", "id"⟩] := rfl
  have htext : Column.text ⟨some "orders", "id"⟩ = "orders.id" := rfl
  rw [secondOrder, Dict.contains, Dict.get?_insert, houtputs]
  by_cases hkey : key = "orders.id"
  · simp [hkey, htext]
  · simp [hkey, htext, eq_comm]

/-- The condition that a column is above one. -/
def aboveOne (c : Column) : Predicate :=
  .compare (.column c) .gt (.literal (.scalar "1" (.int 1)))

theorem withHaving_reads_secondOrder :
    ∃ kept, paymentsById.withHaving (aboveOne (.bare "id")) = .ok kept ∧
      paymentsById.IsGroup secondOrder ∧ kept.having.accepts secondOrder = false := by
  obtain ⟨hiff, hreads⟩ := withHaving_reads paymentsById (aboveOne (.bare "id"))
  obtain ⟨kept, h⟩ := hiff.mpr (by decide +kernel)
  obtain ⟨-, -, hhaving⟩ := withHaving_eq_ok.mp h
  refine ⟨kept, h, isGroup_secondOrder, ?_⟩
  refine (hreads kept secondOrder h isGroup_secondOrder).2
    ⟨"", .column (.bare "id"), .gt, .literal (.scalar "1" (.int 1))⟩ ?_ (.bare "id") ?_ ?_
  · rw [hhaving]
    exact List.mem_singleton_self _
  · exact List.mem_singleton_self _
  · decide +kernel

/-- A predicate on the bare name of a qualified key is taken, but no group has that name, and it does
not accept a group that it accepts under the name of the key. -/
theorem withHaving_reads_missing_key :
    ∃ kept, paymentsById.withHaving (aboveOne (.bare "id")) = .ok kept ∧
      .bare "id" ∈ kept.having.columns ∧
      (∀ o ∈ kept.grouped.outputs, o.text ≠ (Column.bare "id").text) ∧
      secondOrder.contains (Column.bare "id").text = false ∧
      kept.having.accepts secondOrder = false ∧
      (aboveOne ⟨some "orders", "id"⟩).accepts secondOrder = true := by
  refine ⟨⟨paymentsById, aboveOne (.bare "id"), by decide +kernel⟩, rfl, ?_, ?_, ?_, ?_, ?_⟩ <;>
    decide +kernel

end GroupedQuery

end JoinPlan
