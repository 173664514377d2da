import JoinPlan.Proofs.Build.Names

/-!
# References to fragments

A join whose fragment is the right side of a join of streams takes itself for that join when its own
right side has the name of the table. It is then built as a reference, and the fragment that it refers
to is never made. So in a plan that is built from the top no reference names a fragment, and there is
a reference exactly when some join has on its right the rows of a join of streams of one table.
-/

namespace JoinPlan

/-! ## Joins of one table -/

namespace Source

/-- The table on the right of the join of streams that rows come from, behind lookups and table
functions. -/
def rightTable? : Source → Option String
  | .join left right _ _ =>
    match right.strategy with
    | .stream => some right.tableName
    | .dimension | .lateral => left.rightTable?
  | _ => none

/-- Whether rows come from a join of streams with one table name on both sides. -/
def isSelfJoin (s : Source) : Bool :=
  s.rightTable? == some s.tableName

/-- Whether some join has on its right rows from a join of streams with one table name. -/
def hasSelfJoinOnRight : Source → Bool
  | .join left right _ _ =>
    left.hasSelfJoinOnRight || right.isSelfJoin || right.hasSelfJoinOnRight
  | _ => false

theorem rightTable?_of_stream {left right : Source} {kind : JoinKind} {on : Option JoinCondition}
    (h : right.strategy = .stream) :
    (Source.join left right kind on).rightTable? = some right.tableName := by
  rw [rightTable?, h]

theorem right_ne_iff {s : Source} :
    (∀ table ∈ s.rightTable?, Role.right s.tableName ≠ .right table) ↔ s.isSelfJoin = false := by
  unfold isSelfJoin
  cases s.rightTable? with
  | none => simp
  | some table => simpa using ne_comm

end Source

theorem Join.isOwnRight_iff {j : Join} {role : Role} :
    j.isOwnRight role = true ↔ role = .right j.right.tableName := by
  cases role with
  | root | left => simp [isOwnRight]
  | right table => simp [isOwnRight, @eq_comm _ table]

/-! ## Steps -/

open Build

theorem references_of_addStage {parts : List String} {stage : String → Stage} {s t : Site}
    (h : addStage parts stage s = .ok () t)
    (hnone : ∀ label, referencesWithin [stage label] = []) :
    t.fragment.references = s.fragment.references := by
  obtain ⟨label, hfragment, -⟩ := of_addStage h
  rw [hfragment, Fragment.references, Fragment.stages_add, referencesWithin_append, hnone,
    List.append_nil]
  rfl

theorem references_of_buildStream {t : Table} {filters : List Predicate} {s r : Site}
    (h : buildStream t filters s = .ok () r) :
    r.fragment.references = s.fragment.references := by
  refine of_buildStream h ?_ ?_
  · intro m hsource
    rw [← references_of_addStage hsource fun _ => rfl]
    rfl
  · intro m m' p hm hfilter
    exact (references_of_addStage hfilter fun _ => rfl).trans hm

namespace Join

theorem references_of_buildReference {place : Place} {s r : Site}
    (h : buildReference place s = .ok () r) : r.fragment.references ≠ [] := by
  obtain ⟨name, m, -, label, m', -, rfl⟩ := buildReference_eq_ok.mp h
  have hstages : (m'.fragment.add (.reference label name)).references ≠ [] := by
    rw [Fragment.references, Fragment.stages_add, referencesWithin_append]
    exact List.append_ne_nil_of_right_ne_nil _ (List.cons_ne_nil _ _)
  exact hstages

theorem references_of_buildStage {j : Join} {window : JoinWindow} {left right : Fragment}
    {s t : Site} (h : j.buildStage window left right s = .ok () t) :
    t.fragment.references =
      s.fragment.references ++ (left.references ++ right.references) := by
  obtain ⟨label, l, r, -, -, -, hstages, -⟩ := of_buildStage h
  rw [Fragment.references, hstages, referencesWithin_append, referencesWithin_join]
  rfl

end Join

/-! ## Runs -/

/-- A run adds references when it is the right side of its own join, or when there is a join of one
table on the right of a join. -/
theorem Source.Builds.references_eq_nil_iff {src : Source} {place : Place} {role : Role}
    {s t : Site} (h : src.Builds place role s t) :
    t.fragment.references = [] ↔
      s.fragment.references = [] ∧ (∀ table ∈ src.rightTable?, role ≠ .right table) ∧
        src.hasSelfJoinOnRight = false := by
  induction h with
  | stream h => simp [references_of_buildStream h, rightTable?, hasSelfJoinOnRight]
  | lateral h =>
    simp [references_of_addStage h fun _ => rfl, rightTable?, hasSelfJoinOnRight]
  | lookup _ _ h ih | expand _ _ h ih =>
    rw [references_of_addStage h fun _ => rfl, ih]
    simp [rightTable?, strategy, hasSelfJoinOnRight, isSelfJoin]
  | reference hstream hown h =>
    refine iff_of_false (Join.references_of_buildReference h) ?_
    rintro ⟨-, hother, -⟩
    exact hother _ (rightTable?_of_stream hstream) (Join.isOwnRight_iff.mp hown)
  | @window left right kind on place role _ leftName name _ s s₁ s₂ l l' s₃ r r' t hstream hother
      hwindowName _ hleftName _ hleftEmit hname _ hrightEmit hstage ihleft ihright =>
    have hfragment : s₃.fragment = s.fragment := fragment_of_sideNames hwindowName hleftName hname
    have hl : l.fragment.references = [] ↔ left.hasSelfJoinOnRight = false := by
      rw [ihleft]
      exact ⟨fun ⟨_, _, h⟩ => h, fun h => ⟨rfl, fun _ _ => nofun, h⟩⟩
    have hr : r.fragment.references = [] ↔
        right.isSelfJoin = false ∧ right.hasSelfJoinOnRight = false := by
      rw [ihright, right_ne_iff]
      exact ⟨fun ⟨_, h⟩ => h, fun h => ⟨rfl, h⟩⟩
    -- A join that is built as a window is not the right side of its own.
    have hrole : ∀ table ∈ (Source.join left right kind (some on)).rightTable?,
        role ≠ .right table := by
      rw [rightTable?_of_stream hstream]
      rintro _ ⟨⟩ hrole
      rw [Join.isOwnRight_iff.mpr hrole] at hother
      cases hother
    have hleftEmit : l'.fragment.references = l.fragment.references :=
      references_of_addStage hleftEmit fun _ => rfl
    have hrightEmit : r'.fragment.references = r.fragment.references :=
      references_of_addStage hrightEmit fun _ => rfl
    have hparent : (r'.leave s₃.fragment).fragment.references = s.fragment.references :=
      congrArg Fragment.references hfragment
    rw [Join.references_of_buildStage hstage, hparent, hleftEmit, hrightEmit,
      List.append_eq_nil_iff, List.append_eq_nil_iff, hl, hr, hasSelfJoinOnRight]
    simp only [Bool.or_eq_false_iff, and_assoc]
    exact ⟨fun ⟨hs, h⟩ => ⟨hs, hrole, h⟩, fun ⟨hs, _, h⟩ => ⟨hs, h⟩⟩

namespace Join

variable {j : Join} {s₀ s : Site}

theorem references_of_build (hempty : s₀.fragment.stages = [])
    (h : j.build .root s₀ = .ok () s) :
    s.fragment.references = [] ↔ j.toSource.hasSelfJoinOnRight = false := by
  have hnone : s₀.fragment.references = [] := by
    rw [Fragment.references, hempty]
    rfl
  rw [(Source.builds_of_build h).references_eq_nil_iff]
  exact ⟨fun ⟨_, _, h⟩ => h, fun h => ⟨hnone, fun _ _ => nofun, h⟩⟩

/-- The condition that two columns are the same. -/
def sameColumn (left right : Column) : JoinCondition where
  content := left.text ++ " = " ++ right.text
  predicate := .compare (.column left) .eq (.column right)

end Join

end JoinPlan
