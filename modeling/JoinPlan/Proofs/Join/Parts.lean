import JoinPlan.Proofs.Join.Resolve
import JoinPlan.Proofs.Statement.PushDown

/-!
# What the parts of a filter mean on the sides

A part of a filter means on the rows of one side what it means on the joined rows, as long as all
its columns are columns of that side. A part that the left side takes is always one of those. The
right side also takes a part in which the join reads a column of the left side under a name that
both sides know.
-/

namespace JoinPlan

open Predicate

/-- A row that has under the columns of the left table what the left row has there, and behind the
alias of the right table what the right row has under its columns. -/
structure JoinedRow (leftColumns rightColumns : List String) (qualifier : String)
    (left right joined : Row) : Prop where
  ofLeft : ∀ c ∈ leftColumns, joined.valueAt c = left.valueAt c
  ofRight : ∀ c ∈ rightColumns, joined.valueAt (qualifier ++ "." ++ c) = right.valueAt c

/-! ## One part -/

namespace Join

variable {j : Join} {t : Table} {row joined : Row} {p : Predicate}

/-- A part that reads columns of the left side means the same on its rows and on joined rows. -/
theorem accepts_on_left (hscope : j.left.scope = t.scope) (hdot : DotFree t.columns)
    (hrow : ∀ c ∈ t.columns, joined.valueAt c = row.valueAt c)
    (hcovers : j.left.scope.covers p = true) :
    (j.left.scope.localize p).accepts row = (j.localize p).accepts joined := by
  apply accepts_mapColumns
  intro c hc
  obtain ⟨d, hd⟩ := Option.isSome_iff_exists.mp (List.all_eq_true.mp hcovers c hc)
  have hboth : j.resolve c.text = some d := resolveEither_of_left hd
  obtain ⟨name, hname, rfl⟩ := Table.resolve_of_dotFree hdot (hscope ▸ hd)
  simp only [renamed, hd, hboth]
  exact (hrow name hname).symm

/-- A part that reads columns of the right side, and none that the left side knows, means the same
on its rows and on joined rows. -/
theorem accepts_on_right {qualifier : String} (hscope : j.right.scope = t.scope)
    (hdot : DotFree t.columns) (has : t.asName = some qualifier) (hne : qualifier ≠ "")
    (hrow : ∀ c ∈ t.columns, joined.valueAt (qualifier ++ "." ++ c) = row.valueAt c)
    (hcovers : j.right.scope.covers p = true)
    (hleft : ∀ c ∈ p.columns, j.left.scope.resolve c.text = none) :
    (j.right.scope.localize p).accepts row = (j.localize p).accepts joined := by
  apply accepts_mapColumns
  intro c hc
  obtain ⟨d, hd⟩ := Option.isSome_iff_exists.mp (List.all_eq_true.mp hcovers c hc)
  obtain ⟨name, hname, rfl⟩ := Table.resolve_of_dotFree hdot (hscope ▸ hd)
  have hboth : j.resolve c.text = some (.qualified qualifier name) := by
    have hscopeAs : j.right.scope.asName = some qualifier := by
      rw [hscope]
      exact has
    rw [resolve, resolveEither_of_right (hleft c hc) hd, hscopeAs, ofRightSide_bare]
  simp only [renamed, hd, hboth, Option.getD_some, Column.text_qualified hne]
  exact (hrow name hname).symm

/-! ## All parts -/

variable {ps : List Predicate}

theorem passes_map {f : Predicate → Predicate} :
    Passes (ps.map f) row ↔ ∀ p ∈ ps, (f p).accepts row = true :=
  List.forall_mem_map

theorem taker_of_mem_taken {side : Side} (h : p ∈ j.taken side ps) : j.taker p = some side :=
  of_decide_eq_true (List.mem_filter.mp h).2

/-- The right side of a left join takes nothing. -/
theorem taken_right_of_leftJoin (hkind : j.kind = .left) (ps : List Predicate) :
    j.taken .right ps = [] := by
  refine List.filter_eq_nil_iff.mpr fun p _ hright => ?_
  have hmay := mayFilter_of_taker (of_decide_eq_true hright)
  simp [mayFilter, hkind] at hmay

/-- Each part is on the left, on the right or left over. -/
theorem passes_map_iff (j : Join) (f : Predicate → Predicate) (ps : List Predicate) (row : Row) :
    Passes (ps.map f) row ↔ Passes ((j.taken .left ps).map f) row ∧
      Passes ((j.taken .right ps).map f) row ∧ Passes ((j.leftOver ps).map f) row := by
  simp only [passes_map, taken, leftOver, List.mem_filter, decide_eq_true_eq, and_imp]
  constructor
  · intro h
    exact ⟨fun p hp _ => h p hp, fun p hp _ => h p hp, fun p hp _ => h p hp⟩
  · rintro ⟨hleft, hright, hrest⟩ p hp
    rcases htaker : j.taker p with _ | _ | _
    · exact hrest p hp htaker
    · exact hleft p hp htaker
    · exact hright p hp htaker

theorem passes_takenBy_left (hscope : j.left.scope = t.scope) (hdot : DotFree t.columns)
    (hrow : ∀ c ∈ t.columns, joined.valueAt c = row.valueAt c) :
    Passes (j.takenBy .left ps) row ↔ Passes ((j.taken .left ps).map j.localize) joined := by
  rw [takenBy, passes_map, passes_map]
  refine forall₂_congr fun p hp => ?_
  rw [← accepts_on_left hscope hdot hrow (covers_of_taker (taker_of_mem_taken hp))]
  rfl

/-- Whether the right side takes a part in which it does not mean what the join means: one with a
column that the left side knows as well. -/
def isMisplaced (j : Join) (p : Predicate) : Bool :=
  decide (j.taker p = some .right) && p.columns.any fun c => (j.left.scope.resolve c.text).isSome

/-- The parts of a filter that are not on a side where they mean something else. -/
def wellPlaced (j : Join) (ps : List Predicate) : List Predicate :=
  ps.filter (!j.isMisplaced ·)

/-- The parts of a filter that are on a side where they mean something else. -/
def misplaced (j : Join) (ps : List Predicate) : List Predicate :=
  ps.filter (j.isMisplaced ·)

theorem passes_placed_iff (j : Join) (f : Predicate → Predicate) (ps : List Predicate) (row : Row) :
    Passes (ps.map f) row ↔
      Passes ((j.misplaced ps).map f) row ∧ Passes ((j.wellPlaced ps).map f) row := by
  simp only [passes_map, misplaced, wellPlaced, List.mem_filter, and_imp, Bool.not_eq_true']
  constructor
  · intro h
    exact ⟨fun p hp _ => h p hp, fun p hp _ => h p hp⟩
  · rintro ⟨hmisplaced, hplaced⟩ p hp
    cases hp' : j.isMisplaced p with
    | true => exact hmisplaced p hp hp'
    | false => exact hplaced p hp hp'

theorem misplaced_taken_right (j : Join) (ps : List Predicate) :
    j.misplaced (j.taken .right ps) = j.misplaced ps := by
  rw [misplaced, taken, List.filter_filter]
  refine List.filter_congr fun p _ => ?_
  simp only [isMisplaced]
  cases decide (j.taker p = some .right) <;> simp

theorem taken_wellPlaced (j : Join) (side : Side) (ps : List Predicate) :
    j.taken side (j.wellPlaced ps) = j.wellPlaced (j.taken side ps) := by
  simp only [taken, wellPlaced, List.filter_filter, Bool.and_comm]

theorem leftOver_wellPlaced (j : Join) (ps : List Predicate) :
    j.leftOver (j.wellPlaced ps) = j.wellPlaced (j.leftOver ps) := by
  simp only [leftOver, wellPlaced, List.filter_filter, Bool.and_comm]

theorem wellPlaced_of_taker_ne_right {qs : List Predicate}
    (h : ∀ p ∈ qs, j.taker p ≠ some .right) : j.wellPlaced qs = qs := by
  refine List.filter_eq_self.mpr fun p hp => ?_
  simp [isMisplaced, h p hp]

theorem passes_wellPlaced_right {qualifier : String} (hscope : j.right.scope = t.scope)
    (hdot : DotFree t.columns) (has : t.asName = some qualifier) (hne : qualifier ≠ "")
    (hrow : ∀ c ∈ t.columns, joined.valueAt (qualifier ++ "." ++ c) = row.valueAt c) :
    Passes ((j.wellPlaced (j.taken .right ps)).map j.right.scope.localize) row ↔
      Passes ((j.wellPlaced (j.taken .right ps)).map j.localize) joined := by
  rw [passes_map, passes_map]
  refine forall₂_congr fun p hp => ?_
  obtain ⟨htaken, hplaced⟩ := List.mem_filter.mp hp
  have htaker := taker_of_mem_taken htaken
  have hleft : ∀ c ∈ p.columns, j.left.scope.resolve c.text = none := by
    simpa [isMisplaced, htaker] using hplaced
  rw [accepts_on_right hscope hdot has hne hrow (covers_of_taker htaker) hleft]

/-- On their sides the parts of a filter mean what they mean in the join, but for the misplaced
ones. -/
theorem passes_sides_iff (j : Join) (ps : List Predicate) {u : Table} {left right : Row}
    {qualifier : String} (hleft : j.left.scope = t.scope) (hright : j.right.scope = u.scope)
    (hdot : DotFree t.columns) (hdot' : DotFree u.columns)
    (has : u.asName = some qualifier) (hne : qualifier ≠ "")
    (hrow : JoinedRow t.columns u.columns qualifier left right joined) :
    Passes (j.takenBy .left ps) left ∧ Passes (j.takenBy .right ps) right ∧
        Passes ((j.leftOver ps).map j.localize) joined ↔
      Passes ((j.misplaced ps).map j.right.scope.localize) right ∧
        Passes ((j.wellPlaced ps).map j.localize) joined := by
  have hleftPlaced : j.wellPlaced (j.taken .left ps) = j.taken .left ps := by
    refine wellPlaced_of_taker_ne_right fun p hp => ?_
    rw [taker_of_mem_taken hp]
    exact nofun
  have hrestPlaced : j.wellPlaced (j.leftOver ps) = j.leftOver ps := by
    refine wellPlaced_of_taker_ne_right fun p hp => ?_
    rw [of_decide_eq_true (List.mem_filter.mp hp).2]
    exact nofun
  have hrightSplit : Passes (j.takenBy .right ps) right ↔ _ :=
    passes_placed_iff j j.right.scope.localize (j.taken .right ps) right
  rw [hrightSplit, misplaced_taken_right,
    passes_wellPlaced_right hright hdot' has hne hrow.ofRight,
    passes_takenBy_left hleft hdot hrow.ofLeft,
    passes_map_iff j j.localize (j.wellPlaced ps), taken_wellPlaced, taken_wellPlaced, hleftPlaced,
    leftOver_wellPlaced, hrestPlaced]
  constructor
  · rintro ⟨hl, ⟨hm, hr⟩, hrest⟩
    exact ⟨hm, hl, hr, hrest⟩
  · rintro ⟨hm, hl, hr, hrest⟩
    exact ⟨hl, ⟨hm, hr⟩, hrest⟩

end Join

end JoinPlan
