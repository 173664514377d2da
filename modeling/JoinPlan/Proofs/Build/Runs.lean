import JoinPlan.Proofs.Build.Streams

/-!
# Runs of a build

`Source.Builds` says what a source does to a site when its build succeeds: which steps are taken, in
which order, and how the sides of a join are built in their own places and roles. The build of a
source succeeds when rows come from its streams and functions and its joins have fitting conditions.
-/

namespace JoinPlan

open Build

/-! ## Strategies -/

namespace Join

/-- A join whose right side is made of streams is a reference in its own right fragment, and else a
stage that holds two fragments. -/
theorem buildWith_of_stream {j : Join} {left right : Role → Build Unit} {place : Place} {role : Role}
    (hstream : j.right.strategy = .stream) :
    j.buildWith left right place role =
      if j.isOwnRight role then buildReference place else j.buildWindow left right place := by
  obtain ⟨_, right', _, _⟩ := j
  cases right' with
  | stream => rfl
  | join => rfl
  | dimension => cases hstream
  | lateral => cases hstream

theorem buildReference_eq_ok {place : Place} {s r : Site} :
    buildReference place s = .ok () r ↔
      ∃ name m, rightName place s = .ok name m ∧
      ∃ label m', freshName [name, "ref"] m = .ok label m' ∧
        m'.leave { m'.fragment.add (.reference label name) with isBreak := true } = r := by
  have hsteps : buildReference place = (do
      let name ← rightName place
      let label ← freshName [name, "ref"]
      onFragment fun f => { f.add (.reference label name) with isBreak := true }) := rfl
  rw [hsteps]
  simp only [bind_eq_ok, onFragment_eq_ok]
  rfl

theorem buildWith_dimension (src : Source) (t : Table) (kind : JoinKind)
    (on : Option JoinCondition) (left right : Role → Build Unit) (place : Place) (role : Role) :
    (⟨src, .dimension t, kind, on⟩ : Join).buildWith left right place role = (do
      let c ← (⟨src, .dimension t, kind, on⟩ : Join).requireCondition
      (⟨src, .dimension t, kind, on⟩ : Join).checkColumns c
      left role
      buildLookup t kind c) := rfl

theorem buildWith_dimension_eq_ok {src : Source} {t : Table} {kind : JoinKind}
    {on : Option JoinCondition} {left right : Role → Build Unit} {place : Place} {role : Role}
    {s r : Site} :
    (⟨src, .dimension t, kind, on⟩ : Join).buildWith left right place role s = .ok () r ↔
      ∃ c, on = some c ∧ (⟨src, .dimension t, kind, on⟩ : Join).unknownColumn? c = none ∧
        ∃ l, left role s = .ok () l ∧ buildLookup t kind c l = .ok () r := by
  rw [buildWith_dimension, bind_eq_ok]
  simp only [seq_eq_ok, requireCondition_eq_ok, checkColumns_eq_ok]
  constructor
  · rintro ⟨c, _, ⟨hon, rfl⟩, _, ⟨hcolumns, rfl⟩, l, hleft, hlookup⟩
    exact ⟨c, hon, hcolumns, l, hleft, hlookup⟩
  · rintro ⟨c, hon, hcolumns, l, hleft, hlookup⟩
    exact ⟨c, _, ⟨hon, rfl⟩, _, ⟨hcolumns, rfl⟩, l, hleft, hlookup⟩

theorem buildWith_lateral_none (src : Source) (t : Table) (function : String) (args : List String)
    (kind : JoinKind) (left right : Role → Build Unit) (place : Place) (role : Role) :
    (⟨src, .lateral t function args, kind, none⟩ : Join).buildWith left right place role = (do
      left role
      buildExpand t function args kind) := rfl

theorem buildWith_lateral_some (src : Source) (t : Table) (function : String) (args : List String)
    (kind : JoinKind) (c : JoinCondition) (left right : Role → Build Unit) (place : Place)
    (role : Role) :
    (⟨src, .lateral t function args, kind, some c⟩ : Join).buildWith left right place role = (do
      (⟨src, .lateral t function args, kind, some c⟩ : Join).checkColumns c
      left role
      buildExpand t function args kind) := rfl

theorem buildWith_lateral_eq_ok {src : Source} {t : Table} {function : String}
    {args : List String} {kind : JoinKind} {on : Option JoinCondition}
    {left right : Role → Build Unit} {place : Place} {role : Role} {s r : Site} :
    (⟨src, .lateral t function args, kind, on⟩ : Join).buildWith left right place role s =
        .ok () r ↔
      (∀ c ∈ on, (⟨src, .lateral t function args, kind, on⟩ : Join).unknownColumn? c = none) ∧
        ∃ l, left role s = .ok () l ∧ buildExpand t function args kind l = .ok () r := by
  cases on with
  | none =>
    rw [buildWith_lateral_none, seq_eq_ok]
    simp
  | some c =>
    rw [buildWith_lateral_some]
    simp only [seq_eq_ok, checkColumns_eq_ok]
    constructor
    · rintro ⟨_, ⟨hcolumns, rfl⟩, h⟩
      refine ⟨?_, h⟩
      rintro _ ⟨⟩
      exact hcolumns
    · rintro ⟨hcolumns, h⟩
      exact ⟨s, ⟨hcolumns c rfl, rfl⟩, h⟩

end Join

/-! ## Runs -/

/-- What a source makes of a site at a place and in a role, when its build succeeds. -/
inductive Source.Builds : Source → Place → Role → Site → Site → Prop
  | stream {t : Table} {filters : List Predicate} {place : Place} {role : Role} {s r : Site}
      (h : buildStream t filters s = .ok () r) : Builds (.stream t filters) place role s r
  | lateral {t : Table} {function : String} {args : List String} {place : Place} {role : Role}
      {s r : Site} (h : buildExpand t function args .inner s = .ok () r) :
      Builds (.lateral t function args) place role s r
  | lookup {left : Source} {t : Table} {kind : JoinKind} {on : JoinCondition} {place : Place}
      {role : Role} {s l r : Site}
      (hcolumns : (⟨left, .dimension t, kind, some on⟩ : Join).unknownColumn? on = none)
      (hleft : Builds left (place ++ [.left]) role s l)
      (h : buildLookup t kind on l = .ok () r) :
      Builds (.join left (.dimension t) kind (some on)) place role s r
  | expand {left : Source} {t : Table} {function : String} {args : List String} {kind : JoinKind}
      {on : Option JoinCondition} {place : Place} {role : Role} {s l r : Site}
      (hcolumns : ∀ c ∈ on,
        (⟨left, .lateral t function args, kind, on⟩ : Join).unknownColumn? c = none)
      (hleft : Builds left (place ++ [.left]) role s l)
      (h : buildExpand t function args kind l = .ok () r) :
      Builds (.join left (.lateral t function args) kind on) place role s r
  | reference {left right : Source} {kind : JoinKind} {on : Option JoinCondition} {place : Place}
      {role : Role} {s r : Site} (hstream : right.strategy = .stream)
      (hown : (⟨left, right, kind, on⟩ : Join).isOwnRight role = true)
      (h : Join.buildReference place s = .ok () r) :
      Builds (.join left right kind on) place role s r
  /-- Both sides are built in fragments of their own, the left one first. -/
  | window {left right : Source} {kind : JoinKind} {on : JoinCondition} {place : Place}
      {role : Role} {windowName leftName name : String} {window : JoinWindow}
      {s s₁ s₂ l l' s₃ r r' t : Site} (hstream : right.strategy = .stream)
      (hother : (⟨left, right, kind, some on⟩ : Join).isOwnRight role = false)
      (hwindowName : freshLabel ["join", "window"] s = .ok windowName s₁)
      (hwindow : JoinWindow.ofCondition s.fragment.space windowName on kind left.scope right.scope =
        .ok window)
      (hleftName : freshLabel ["subpipeline", "join", "left"] s₁ = .ok leftName s₂)
      (hleft : Builds left (place ++ [.left]) .left (s₂.enter leftName) l)
      (hleftEmit : Join.buildEmit window l = .ok () l')
      (hname : rightName place (l'.leave s₂.fragment) = .ok name s₃)
      (hright : Builds right (place ++ [.right]) (.right right.tableName) (s₃.enter name) r)
      (hrightEmit : Join.buildEmit window r = .ok () r')
      (hstage : (⟨left, right, kind, some on⟩ : Join).buildStage window l'.fragment r'.fragment
        (r'.leave s₃.fragment) = .ok () t) :
      Builds (.join left right kind (some on)) place role s t

namespace Source

theorem builds_join_of_stream {left right : Source} {kind : JoinKind} {on : Option JoinCondition}
    {place : Place} {role : Role} {s t : Site} (hstream : right.strategy = .stream)
    (hleft : ∀ {place role s t}, left.build place role s = .ok () t → left.Builds place role s t)
    (hright : ∀ {place role s t}, right.build place role s = .ok () t →
      right.Builds place role s t)
    (h : (Source.join left right kind on).build place role s = .ok () t) :
    (Source.join left right kind on).Builds place role s t := by
  rw [build, Join.buildWith_of_stream hstream] at h
  split at h
  · rename_i hown
    exact .reference hstream hown h
  · rename_i hother
    obtain ⟨on, rfl, windowName, s₁, hwindowName, window, hwindow, leftName, s₂, hleftName, _, _,
      hleftSide, name, s₃, hname, _, _, hrightSide, hstage⟩ := Join.buildWindow_eq_ok.mp h
    obtain ⟨l, l', hl, hleftEmit, rfl, rfl⟩ := Join.buildSide_eq_ok.mp hleftSide
    obtain ⟨r, r', hr, hrightEmit, rfl, rfl⟩ := Join.buildSide_eq_ok.mp hrightSide
    exact .window hstream (by simpa using hother) hwindowName hwindow hleftName (hleft hl)
      hleftEmit hname (hright hr) hrightEmit hstage

theorem builds_of_build {src : Source} {place : Place} {role : Role} {s t : Site}
    (h : src.build place role s = .ok () t) : src.Builds place role s t := by
  induction src generalizing place role s t with
  | stream => exact .stream h
  | dimension => exact absurd h throw_ne_ok
  | lateral => exact .lateral h
  | join left right kind on ihleft ihright =>
    cases right with
    | stream => exact builds_join_of_stream rfl ihleft ihright h
    | join => exact builds_join_of_stream rfl ihleft ihright h
    | dimension t =>
      obtain ⟨c, rfl, hcolumns, l, hleft, hlookup⟩ := Join.buildWith_dimension_eq_ok.mp h
      exact .lookup hcolumns (ihleft hleft) hlookup
    | lateral t function args =>
      obtain ⟨hcolumns, l, hleft, hexpand⟩ := Join.buildWith_lateral_eq_ok.mp h
      exact .expand hcolumns (ihleft hleft) hexpand

/-! ## Success -/

/-- Whether rows come from the left side of each join and its condition fits both sides. -/
inductive Buildable : Source → Prop
  | stream (t : Table) (filters : List Predicate) : Buildable (.stream t filters)
  | lateral (t : Table) (function : String) (args : List String) :
      Buildable (.lateral t function args)
  | lookup {left : Source} {t : Table} {kind : JoinKind} {on : JoinCondition}
      (hleft : left.Buildable)
      (hcolumns : (⟨left, .dimension t, kind, some on⟩ : Join).unknownColumn? on = none) :
      Buildable (.join left (.dimension t) kind (some on))
  | expand {left : Source} {t : Table} {function : String} {args : List String} {kind : JoinKind}
      {on : Option JoinCondition} (hleft : left.Buildable)
      (hcolumns : ∀ c ∈ on,
        (⟨left, .lateral t function args, kind, on⟩ : Join).unknownColumn? c = none) :
      Buildable (.join left (.lateral t function args) kind on)
  | window {left right : Source} {kind : JoinKind} {on : JoinCondition} {keys : JoinKeys}
      (hstream : right.strategy = .stream) (hleft : left.Buildable) (hright : right.Buildable)
      (hkeys : JoinKeys.ofCondition on left.scope right.scope = .ok keys) :
      Buildable (.join left right kind (some on))

theorem buildReference_succeeds (place : Place) (s : Site) :
    ∃ r, Join.buildReference place s = .ok () r := by
  obtain ⟨name, m, hname⟩ := rightName_succeeds place s
  exact ⟨_, Join.buildReference_eq_ok.mpr
    ⟨name, m, hname, _, _, freshName_eq_ok.mpr ⟨rfl, rfl⟩, rfl⟩⟩

theorem buildSide_succeeds {side : Build Unit} (hside : ∀ s, ∃ r, side s = .ok () r)
    (window : JoinWindow) (name : String) (s : Site) :
    ∃ f r, Join.buildSide window name side s = .ok f r := by
  obtain ⟨r, hr⟩ := hside (s.enter name)
  obtain ⟨_, r', hemit, -⟩ := addStage_succeeds ["emit"] (.emit · window) r
  exact ⟨_, _, Join.buildSide_eq_ok.mpr ⟨r, r', hr, hemit, rfl, rfl⟩⟩

theorem Buildable.build_succeeds {src : Source} (h : src.Buildable) (place : Place) (role : Role)
    (s : Site) : ∃ t, src.build place role s = .ok () t := by
  induction h generalizing place role s with
  | stream t filters =>
    obtain ⟨r, hr, -⟩ := buildStream_succeeds t filters s
    exact ⟨r, hr⟩
  | lateral t function args => exact ⟨_, addStage_eq_ok.mpr rfl⟩
  | lookup _ hcolumns ih =>
    obtain ⟨l, hl⟩ := ih (place ++ [.left]) role s
    exact ⟨_, Join.buildWith_dimension_eq_ok.mpr
      ⟨_, rfl, hcolumns, l, hl, addStage_eq_ok.mpr rfl⟩⟩
  | expand _ hcolumns ih =>
    obtain ⟨l, hl⟩ := ih (place ++ [.left]) role s
    exact ⟨_, Join.buildWith_lateral_eq_ok.mpr ⟨hcolumns, l, hl, addStage_eq_ok.mpr rfl⟩⟩
  | window hstream _ _ hkeys ihleft ihright =>
    rw [build, Join.buildWith_of_stream hstream]
    split
    · exact buildReference_succeeds place s
    · exact Join.buildWindow_succeeds rfl hkeys
        (fun window name s => buildSide_succeeds (ihleft _ _) window name s)
        (fun window name s => buildSide_succeeds (ihright _ _) window name s) s

end Source

end JoinPlan
