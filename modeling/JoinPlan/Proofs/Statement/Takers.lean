import JoinPlan.Proofs.Join.Resolve
import JoinPlan.Proofs.Statement.PushDown

/-!
# Which side takes a part of a filter

The left side takes the parts that read only columns it knows. The right side of an inner join takes
the parts that read only columns it knows, unless the left side knows them all. Only streams take
parts, and what a stream takes reads the columns of its table under their own names.
-/

namespace JoinPlan

theorem Scope.covers_iff {s : Scope} {p : Predicate} :
    s.covers p = true ↔ ∀ c ∈ p.columns, (s.resolve c.text).isSome = true :=
  List.all_eq_true

theorem Source.takesFilters_iff {s : Source} :
    s.takesFilters = true ↔ ∃ t filters, s = .stream t filters := by
  cases s <;> simp [takesFilters]

namespace Join

variable {j : Join} {p : Predicate}

/-! ## Takers -/

theorem taker_eq_left_iff :
    j.taker p = some .left ↔
      j.left.takesFilters = true ∧ p.columns ≠ [] ∧
        ∀ c ∈ p.columns, (j.left.scope.resolve c.text).isSome = true := by
  rw [taker_eq_some_iff, sideOf_eq_left_iff, ← Scope.covers_iff]
  constructor
  · rintro ⟨hside, -, hstream⟩
    exact ⟨hstream, hside⟩
  · rintro ⟨hstream, hside⟩
    exact ⟨hside, rfl, hstream⟩

theorem taker_eq_right_iff :
    j.taker p = some .right ↔
      (¬∀ c ∈ p.columns, (j.left.scope.resolve c.text).isSome = true) ∧
        (∀ c ∈ p.columns, (j.right.scope.resolve c.text).isSome = true) ∧
        j.right.takesFilters = true ∧ j.kind = .inner := by
  rw [taker_eq_some_iff, sideOf_eq_right_iff, ← Scope.covers_iff, ← Scope.covers_iff]
  have hmay : j.mayFilter .right = true ↔ j.kind = .inner := beq_iff_eq
  constructor
  · rintro ⟨⟨hleft, hright⟩, hinner, hstream⟩
    exact ⟨hleft, hright, hstream, hmay.mp hinner⟩
  · rintro ⟨hleft, hright, hstream, hinner⟩
    exact ⟨⟨hleft, hright⟩, hmay.mpr hinner, hstream⟩

/-! ## Parts -/

theorem taken_cons (j : Join) (side : Side) (p : Predicate) (ps : List Predicate) :
    j.taken side (p :: ps) = (if j.taker p = some side then [p] else []) ++ j.taken side ps := by
  unfold taken
  by_cases h : j.taker p = some side <;> simp [h]

/-- Each part is taken by one side or left over, as often as it is there. -/
theorem taken_perm (j : Join) (ps : List Predicate) :
    (j.taken .left ps ++ (j.taken .right ps ++ j.leftOver ps)).Perm ps := by
  induction ps with
  | nil => exact .nil
  | cons p ps ih =>
    rw [taken_cons, taken_cons, leftOver_cons]
    rcases htaker : j.taker p with _ | _ | _
    · have hbehind := (List.perm_middle.append_left (j.taken .left ps)).trans
        (List.perm_middle.trans (ih.cons p))
      simpa using hbehind
    · simpa using ih.cons p
    · have hbetween := List.perm_middle.trans (ih.cons p)
      simpa using hbetween

/-- What a stream takes reads columns of its table, under their own names. -/
theorem columns_of_mem_takenBy {side : Side} {t : Table} {filters ps : List Predicate}
    (hstream : j.side side = .stream t filters) (hdot : DotFree t.columns)
    (hp : p ∈ j.takenBy side ps) : ∀ c ∈ p.columns, ∃ name ∈ t.columns, c = .bare name := by
  obtain ⟨part, hpart, rfl⟩ := List.mem_map.mp hp
  have htaker : j.taker part = some side := of_decide_eq_true (List.mem_filter.mp hpart).2
  have hcovers := Scope.covers_iff.mp (covers_of_taker htaker)
  intro c hc
  rw [Scope.localize, Predicate.columns_mapColumns] at hc
  obtain ⟨d, hd, rfl⟩ := List.mem_map.mp hc
  obtain ⟨e, he⟩ := Option.isSome_iff_exists.mp (hcovers d hd)
  have hrenamed : renamed (fun c => (j.side side).scope.resolve c.text) d = e := by
    rw [renamed, he, Option.getD_some]
  rw [hrenamed]
  rw [hstream] at he
  exact Table.resolve_of_dotFree hdot he

/-- A filter is split into its parts, of which each goes to one side or stays behind the join, in the
order of the parts. A part goes to a stream on the left just when it reads some column and the left
side knows all that it reads. It goes to a stream on the right of an inner join just when the right
side knows all that it reads and the left side does not. On its side it reads nothing but the columns
of the stream. -/
theorem pushDown_places_parts {j : Join} (p : Predicate)
    (hdot : ∀ side t filters, j.side side = .stream t filters → DotFree t.columns) :
    j.pushDown p =
        (j.withFilters (j.takenBy .left p.conjuncts) (j.takenBy .right p.conjuncts),
          j.leftOver p.conjuncts) ∧
      (j.taken .left p.conjuncts ++ (j.taken .right p.conjuncts ++ j.leftOver p.conjuncts)).Perm
        p.conjuncts ∧
      (∀ part, j.taker part = some .left ↔
        j.left.takesFilters = true ∧ part.columns ≠ [] ∧
          ∀ c ∈ part.columns, (j.left.scope.resolve c.text).isSome = true) ∧
      (∀ part, j.taker part = some .right ↔
        (¬∀ c ∈ part.columns, (j.left.scope.resolve c.text).isSome = true) ∧
          (∀ c ∈ part.columns, (j.right.scope.resolve c.text).isSome = true) ∧
          j.right.takesFilters = true ∧ j.kind = .inner) ∧
      ∀ side, ∀ part ∈ j.takenBy side p.conjuncts, ∃ t filters,
        j.side side = .stream t filters ∧
          ∀ c ∈ part.columns, ∃ name ∈ t.columns, c = .bare name := by
  refine ⟨j.pushParts_eq p.conjuncts, j.taken_perm p.conjuncts, fun _ => taker_eq_left_iff,
    fun _ => taker_eq_right_iff, fun side part hpart => ?_⟩
  obtain ⟨original, horiginal, rfl⟩ := List.mem_map.mp hpart
  have htaker : j.taker original = some side := of_decide_eq_true (List.mem_filter.mp horiginal).2
  obtain ⟨t, filters, hstream⟩ := Source.takesFilters_iff.mp (taker_eq_some_iff.mp htaker).2.2
  exact ⟨t, filters, hstream, columns_of_mem_takenBy hstream (hdot side t filters hstream) hpart⟩

/-- Orders with their payments. -/
def billedOrders : Join where
  left := .stream ⟨"orders", none, ["id", "total"]⟩ []
  right := .stream ⟨"payments", some "p", ["id", "order_id"]⟩ []
  kind := .inner
  on := none

/-- Whether a column is the number one. -/
def isOne (c : Column) : Predicate :=
  .compare (.column c) .eq (.literal (.scalar "1" (.int 1)))

/-- The payments are asked about the column that only they have, and the orders about the one that
both have. A comparison of columns of both sides stays behind the join, as does one without a
column. -/
theorem pushDown_places_parts_billedOrders :
    DotFree ["id", "total"] ∧ DotFree ["id", "order_id"] ∧
    billedOrders.pushDown (.and [isOne ⟨none, "order_id"⟩, isOne ⟨some "orders", "id"⟩,
        .compare (.column ⟨none, "total"⟩) .gt (.column ⟨some "p", "order_id"⟩),
        .compare (.literal (.scalar "1" (.int 1))) .eq (.literal (.scalar "1" (.int 1)))]) =
      (billedOrders.withFilters [isOne (.bare "id")] [isOne (.bare "order_id")],
        [.compare (.column ⟨none, "total"⟩) .gt (.column ⟨some "p", "order_id"⟩),
          .compare (.literal (.scalar "1" (.int 1))) .eq (.literal (.scalar "1" (.int 1)))]) := by
  have horders : DotFree ["id", "total"] := by decide
  have hpayments : DotFree ["id", "order_id"] := by decide
  refine ⟨horders, hpayments, (pushDown_places_parts _ ?_).1.trans rfl⟩
  rintro (_ | _) t filters hstream
  · cases hstream
    exact horders
  · cases hstream
    exact hpayments

end Join

end JoinPlan
