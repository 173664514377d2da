import JoinPlan.Proofs.Build.Sides

/-!
# The streams that a plan reads

A plan reads the streams that its source names, at some depth, and no others, unless it refers to a
fragment that is not in it. It depends on the first table of the source if that is a stream.
-/

namespace JoinPlan

/-! ## Streams within stages -/

/-- The stream that a stage reads. -/
def Stage.stream? : Stage → Option String
  | .source _ table _ => some table
  | _ => none

/-- The streams that some stages read, at every depth. -/
def streamsWithin (stages : List Stage) : List String :=
  (stagesWithin stages).filterMap Stage.stream?

/-- The streams that a plan reads. -/
def Fragment.streams (f : Fragment) : List String :=
  streamsWithin f.stages

theorem streamsWithin_append (as bs : List Stage) :
    streamsWithin (as ++ bs) = streamsWithin as ++ streamsWithin bs := by
  rw [streamsWithin, stagesWithin_append, List.filterMap_append]
  rfl

theorem streamsWithin_join (label : String) (window : JoinWindow) (left : Header)
    (leftStages : List Stage) (right : Header) (rightStages : List Stage)
    (rightDependency : String) :
    streamsWithin [.join label window left leftStages right rightStages rightDependency] =
      streamsWithin leftStages ++ streamsWithin rightStages := by
  rw [streamsWithin, stagesWithin_singleton, Stage.within, List.filterMap_cons_none rfl,
    List.filterMap_append]
  rfl

theorem Fragment.streams_add (f : Fragment) (stage : Stage) :
    (f.add stage).streams = f.streams ++ streamsWithin [stage] :=
  streamsWithin_append f.stages [stage]

/-! ## Steps -/

open Build

theorem streams_of_addStage {parts : List String} {stage : String → Stage} {s t : Site}
    (h : addStage parts stage s = .ok () t) (hnone : ∀ label, streamsWithin [stage label] = []) :
    t.fragment.streams = s.fragment.streams ∧ t.fragment.dependency = s.fragment.dependency := by
  obtain ⟨label, hfragment, -⟩ := of_addStage h
  rw [hfragment, Fragment.streams_add, hnone, List.append_nil]
  exact ⟨rfl, rfl⟩

theorem streams_of_buildStream {t : Table} {filters : List Predicate} {s r : Site}
    (h : buildStream t filters s = .ok () r) :
    r.fragment.streams = s.fragment.streams ++ [t.name] ∧
      r.fragment.dependency = s.fragment.dependency.or (some t.name) := by
  refine of_buildStream h ?_ ?_
  · intro m hsource
    obtain ⟨label, hfragment, -⟩ := of_addStage hsource
    have hm : (m.leave (m.fragment.dependOn t.name)).fragment =
        (s.fragment.add (.source label t.name t.asName)).dependOn t.name :=
      congrArg (·.dependOn (some t.name)) hfragment
    rw [hm]
    exact ⟨Fragment.streams_add s.fragment _, rfl⟩
  · intro m m' p hm hfilter
    obtain ⟨hstreams, hsame⟩ := streams_of_addStage hfilter fun _ => rfl
    exact ⟨hstreams.trans hm.1, hsame.trans hm.2⟩

theorem Join.dependency_withArrival (j : Join) (side : Source) (f : Fragment) :
    (j.withArrival side f).dependency = f.dependency := by
  unfold withArrival
  split <;> rfl

theorem Join.streams_of_buildStage {j : Join} {window : JoinWindow} {left right : Fragment}
    {s t : Site} (h : j.buildStage window left right s = .ok () t) :
    t.fragment.streams = s.fragment.streams ++ (left.streams ++ right.streams) ∧
      t.fragment.dependency = s.fragment.dependency.or left.dependency := by
  obtain ⟨label, hfragment⟩ := Join.addJoin_of_buildStage h
  have hdependency : t.fragment.dependency =
      s.fragment.dependency.or (j.withArrival j.left left).dependency :=
    congrArg (·.dependency) hfragment
  rw [hdependency, dependency_withArrival, hfragment, Fragment.addJoin, Fragment.streams_add,
    streamsWithin_join, stages_withArrival, stages_withArrival]
  exact ⟨rfl, rfl⟩

/-! ## Runs -/

namespace Source

/-- The first table of a source from the left. -/
def leftmost : Source → Source
  | .join left .. => left.leftmost
  | s => s

theorem streams_of_stream {left right : Source} {kind : JoinKind} {on : Option JoinCondition}
    (h : right.strategy = .stream) :
    (Source.join left right kind on).streams = left.streams.union right.streams := by
  rw [streams, h]

/-- A run without references adds what reads the streams of the source. -/
theorem Builds.mem_streams {src : Source} {place : Place} {role : Role} {s t : Site}
    (h : src.Builds place role s t) (hnone : t.fragment.references = []) (table : String) :
    table ∈ t.fragment.streams ↔ table ∈ s.fragment.streams ∨ table ∈ src.streams.keys := by
  induction h with
  | stream h =>
    rw [(streams_of_buildStream h).1, List.mem_append, streams, NameSet.mem_keys_ofList]
  | lateral h =>
    rw [(streams_of_addStage h fun _ => rfl).1]
    exact (or_iff_left List.not_mem_nil).symm
  | lookup _ _ h ih | expand _ _ h ih =>
    rw [references_of_addStage h fun _ => rfl] at hnone
    rw [(streams_of_addStage h fun _ => rfl).1, ih hnone]
    rfl
  | reference _ _ h => exact absurd hnone (Join.references_of_buildReference h)
  | @window left right kind on place role _ _ _ _ s s₁ s₂ l l' s₃ r r' t hstream _ hwindowName _
      hleftName _ hleftEmit hname _ hrightEmit hstage ihleft ihright =>
    have hfragment : s₃.fragment = s.fragment := fragment_of_sideNames hwindowName hleftName hname
    have hparent : (r'.leave s₃.fragment).fragment.streams = s.fragment.streams :=
      congrArg Fragment.streams hfragment
    rw [Join.references_of_buildStage hstage, List.append_eq_nil_iff, List.append_eq_nil_iff,
      references_of_addStage hleftEmit fun _ => rfl,
      references_of_addStage hrightEmit fun _ => rfl] at hnone
    obtain ⟨-, hleftNone, hrightNone⟩ := hnone
    have hl : table ∈ l'.fragment.streams ↔ table ∈ left.streams.keys := by
      rw [(streams_of_addStage hleftEmit fun _ => rfl).1, ihleft hleftNone]
      exact or_iff_right List.not_mem_nil
    have hr : table ∈ r'.fragment.streams ↔ table ∈ right.streams.keys := by
      rw [(streams_of_addStage hrightEmit fun _ => rfl).1, ihright hrightNone]
      exact or_iff_right List.not_mem_nil
    rw [(Join.streams_of_buildStage hstage).1, hparent, List.mem_append, List.mem_append, hl, hr,
      streams_of_stream hstream, NameSet.mem_keys_union]

/-- A run without references makes its fragment depend on the first stream of the source, unless it
depends on one already. -/
theorem Builds.dependency_eq {src : Source} {place : Place} {role : Role} {s t : Site}
    (h : src.Builds place role s t) (hnone : t.fragment.references = [])
    (hfirst : src.leftmost.strategy = .stream) :
    t.fragment.dependency = s.fragment.dependency.or (some src.tableName) := by
  induction h with
  | stream h => exact (streams_of_buildStream h).2
  | lateral h => cases hfirst
  | lookup _ _ h ih | expand _ _ h ih =>
    rw [references_of_addStage h fun _ => rfl] at hnone
    rw [(streams_of_addStage h fun _ => rfl).2]
    exact ih hnone hfirst
  | reference _ _ h => exact absurd hnone (Join.references_of_buildReference h)
  | @window left right kind on place role _ _ _ _ s s₁ s₂ l l' s₃ r r' t _ _ hwindowName _
      hleftName _ hleftEmit hname _ hrightEmit hstage ihleft _ =>
    have hfragment : s₃.fragment = s.fragment := fragment_of_sideNames hwindowName hleftName hname
    have hparent : (r'.leave s₃.fragment).fragment.dependency = s.fragment.dependency :=
      congrArg (·.dependency) hfragment
    rw [Join.references_of_buildStage hstage, List.append_eq_nil_iff, List.append_eq_nil_iff,
      references_of_addStage hleftEmit fun _ => rfl] at hnone
    rw [(Join.streams_of_buildStage hstage).2, hparent,
      (streams_of_addStage hleftEmit fun _ => rfl).2, ihleft hnone.2.1 hfirst]
    rfl

end Source

/-! ## Plans -/

/-- A plan without references reads the streams of its source, and depends on the first table of the
source if that is a stream. -/
theorem reads_streams_of_source {src : Source} {place : Place} {role : Role} {s t : Site}
    (hstages : s.fragment.stages = []) (hdependency : s.fragment.dependency = none)
    (h : src.build place role s = .ok () t) (hnone : t.fragment.references = []) :
    (∀ table, table ∈ t.fragment.streams ↔ table ∈ src.streams.keys) ∧
      (src.leftmost.strategy = .stream → t.fragment.dependency = some src.tableName) := by
  have hbuilds := Source.builds_of_build h
  have hempty : s.fragment.streams = [] := by
    rw [Fragment.streams, hstages]
    rfl
  constructor
  · intro table
    rw [hbuilds.mem_streams hnone, hempty]
    exact or_iff_right List.not_mem_nil
  · intro hfirst
    rw [hbuilds.dependency_eq hnone hfirst, hdependency]
    rfl

/-- The customers and their regions are read in the fragments of the right side. -/
theorem reads_streams_of_source_regionalOrders :
    ∃ t, Join.regionalOrders.build .root (Build.start "default" "orders") = .ok () t ∧
      t.fragment.references = [] ∧
      (∀ table, table ∈ t.fragment.streams ↔ table ∈ ["customers", "orders", "regions"]) ∧
      t.fragment.dependency = some "orders" := by
  obtain ⟨t, h⟩ := Join.regionalOrders_builds .root (Build.start "default" "orders")
  have hnone : t.fragment.references = [] :=
    (Join.references_of_build rfl h).mpr (by decide +kernel)
  obtain ⟨hstreams, hdependency⟩ := reads_streams_of_source rfl rfl h hnone
  exact ⟨t, h, hnone, hstreams, hdependency rfl⟩

end JoinPlan
