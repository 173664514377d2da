import JoinPlan.Proofs.Predicate.Rename
import JoinPlan.Statement.PushDown

/-!
# Where the parts of a filter go

A join hands each part of a filter to the one side that takes it, in the order of the parts, or
leaves it over. Filters on a side change neither its scope nor what it takes.
-/

namespace JoinPlan

/-! ## Filters on a source -/

namespace Source

def takesFilters : Source → Bool
  | .stream .. => true
  | _ => false

/-- The source with more filters, if it is one that takes filters. -/
def withFilters (s : Source) (ps : List Predicate) : Source :=
  match s with
  | .stream t filters => .stream t (filters ++ ps)
  | s => s

@[simp] theorem scope_withFilters (s : Source) (ps : List Predicate) :
    (s.withFilters ps).scope = s.scope := by
  cases s <;> rfl

@[simp] theorem takesFilters_withFilters (s : Source) (ps : List Predicate) :
    (s.withFilters ps).takesFilters = s.takesFilters := by
  cases s <;> rfl

@[simp] theorem withFilters_nil (s : Source) : s.withFilters [] = s := by
  cases s <;> simp [withFilters]

theorem withFilters_append (s : Source) (ps qs : List Predicate) :
    (s.withFilters ps).withFilters qs = s.withFilters (ps ++ qs) := by
  cases s <;> simp [withFilters]

theorem pushFilter_eq (s : Source) (p : Predicate) :
    s.pushFilter p = if s.takesFilters then some (s.withFilters [p]) else none := by
  cases s <;> rfl

end Source

/-! ## The side that takes a part -/

namespace Join

/-- The join with more filters on its two sides. -/
def withFilters (j : Join) (left right : List Predicate) : Join :=
  { j with left := j.left.withFilters left, right := j.right.withFilters right }

/-- The side that takes a part of a filter. -/
def taker (j : Join) (p : Predicate) : Option Side :=
  (j.sideOf p).filter fun side => j.mayFilter side && (j.side side).takesFilters

/-- The parts of a filter that a side takes. -/
def taken (j : Join) (side : Side) (ps : List Predicate) : List Predicate :=
  ps.filter (j.taker · = some side)

/-- The parts of a filter that a side takes, with the names that their columns have there. -/
def takenBy (j : Join) (side : Side) (ps : List Predicate) : List Predicate :=
  (j.taken side ps).map (j.side side).scope.localize

/-- The parts of a filter that no side takes. -/
def leftOver (j : Join) (ps : List Predicate) : List Predicate :=
  ps.filter (j.taker · = none)

/-- A predicate with the names that its columns have in a join. -/
def localize (j : Join) (p : Predicate) : Predicate :=
  p.mapColumns fun c => j.resolve c.text

variable (j : Join) (ls rs : List Predicate)

@[simp] theorem scope_side_withFilters (side : Side) :
    ((j.withFilters ls rs).side side).scope = (j.side side).scope := by
  cases side <;> simp [withFilters, Join.side]

@[simp] theorem resolve_withFilters (raw : String) :
    (j.withFilters ls rs).resolve raw = j.resolve raw := by
  simp [withFilters, resolve]

theorem taker_withFilters (p : Predicate) : (j.withFilters ls rs).taker p = j.taker p := by
  have hside : (j.withFilters ls rs).sideOf p = j.sideOf p := by simp [sideOf, withFilters]
  unfold taker
  rw [hside]
  congr 1
  funext side
  cases side <;> simp [withFilters, mayFilter, Join.side]

theorem takenBy_withFilters (side : Side) (ps : List Predicate) :
    (j.withFilters ls rs).takenBy side ps = j.takenBy side ps := by
  simp only [takenBy, taken, taker_withFilters, scope_side_withFilters]

theorem leftOver_withFilters (ps : List Predicate) :
    (j.withFilters ls rs).leftOver ps = j.leftOver ps := by
  simp only [leftOver, taker_withFilters]

/-! ## The side of a part -/

theorem sideOf_eq_left_iff {j : Join} {p : Predicate} :
    j.sideOf p = some .left ↔ p.columns ≠ [] ∧ j.left.scope.covers p = true := by
  unfold sideOf
  split
  · rename_i hnone
    exact iff_of_false nofun fun h => h.1 (List.isEmpty_iff.mp hnone)
  · rename_i hsome
    have hcolumns : p.columns ≠ [] := fun h => hsome (List.isEmpty_iff.mpr h)
    rw [and_iff_right hcolumns]
    split
    · rename_i hleft
      exact iff_of_true rfl hleft
    · rename_i hleft
      split <;> exact iff_of_false nofun hleft

/-- A part that reads no column is known to every side, so it does not go to the right one. -/
theorem sideOf_eq_right_iff {j : Join} {p : Predicate} :
    j.sideOf p = some .right ↔
      ¬j.left.scope.covers p = true ∧ j.right.scope.covers p = true := by
  unfold sideOf
  split
  · rename_i hnone
    have hcovers : j.left.scope.covers p = true := by
      rw [Scope.covers, List.isEmpty_iff.mp hnone, List.all_nil]
    exact iff_of_false nofun fun h => h.1 hcovers
  · split
    · rename_i hleft
      exact iff_of_false nofun fun h => h.1 hleft
    · rename_i hleft
      rw [and_iff_right hleft]
      split
      · rename_i hright
        exact iff_of_true rfl hright
      · rename_i hright
        exact iff_of_false nofun hright

theorem taker_eq_some_iff {j : Join} {side : Side} {p : Predicate} :
    j.taker p = some side ↔
      j.sideOf p = some side ∧ j.mayFilter side = true ∧ (j.side side).takesFilters = true := by
  rw [taker, Option.filter_eq_some_iff, Bool.and_eq_true_iff]

theorem covers_of_taker {j : Join} {side : Side} {p : Predicate} (h : j.taker p = some side) :
    (j.side side).scope.covers p = true := by
  obtain ⟨hside, -⟩ := taker_eq_some_iff.mp h
  cases side with
  | left => exact (sideOf_eq_left_iff.mp hside).2
  | right => exact (sideOf_eq_right_iff.mp hside).2

theorem mayFilter_of_taker {j : Join} {side : Side} {p : Predicate} (h : j.taker p = some side) :
    j.mayFilter side = true :=
  (taker_eq_some_iff.mp h).2.1

/-! ## Pushing down -/

/-- A part goes to the side that takes it, in the names of that side. -/
theorem pushPart_eq (p : Predicate) :
    j.pushPart p = (j.taker p).map fun
      | .left => j.withFilters [j.left.scope.localize p] []
      | .right => j.withFilters [] [j.right.scope.localize p] := by
  simp only [pushPart, taker, pushFilter, Source.pushFilter_eq]
  rcases j.sideOf p with _ | _ | _
  · rfl
  · by_cases h : j.left.takesFilters <;>
      simp [Option.filter, mayFilter, Join.side, withSide, withFilters, h]
  · by_cases hmay : j.mayFilter .right <;> by_cases h : j.right.takesFilters <;>
      simp [Option.filter, Join.side, withSide, withFilters, hmay, h]

theorem takenBy_cons (side : Side) (p : Predicate) (ps : List Predicate) :
    j.takenBy side (p :: ps) =
      (if j.taker p = some side then [(j.side side).scope.localize p] else []) ++
        j.takenBy side ps := by
  unfold takenBy taken
  by_cases h : j.taker p = some side <;> simp [h]

theorem leftOver_cons (p : Predicate) (ps : List Predicate) :
    j.leftOver (p :: ps) = (if j.taker p = none then [p] else []) ++ j.leftOver ps := by
  unfold leftOver
  by_cases h : j.taker p = none <;> simp [h]

theorem withFilters_withFilters (ls' rs' : List Predicate) :
    (j.withFilters ls rs).withFilters ls' rs' = j.withFilters (ls ++ ls') (rs ++ rs') := by
  simp only [withFilters, Source.withFilters_append]

/-- Each part is on the one side that takes it or left over, in the order of the parts. -/
theorem pushParts_eq (ps : List Predicate) :
    j.pushParts ps =
      (j.withFilters (j.takenBy .left ps) (j.takenBy .right ps), j.leftOver ps) := by
  induction ps generalizing j with
  | nil => simp [pushParts, withFilters, takenBy, taken, leftOver]
  | cons p ps ih =>
    rw [pushParts, pushPart_eq, takenBy_cons, takenBy_cons, leftOver_cons]
    rcases htaker : j.taker p with _ | _ | _
    · simp [ih]
    · simp [ih, takenBy_withFilters, leftOver_withFilters, withFilters_withFilters, Join.side]
    · simp [ih, takenBy_withFilters, leftOver_withFilters, withFilters_withFilters, Join.side]

end Join

end JoinPlan
