import JoinPlan.Proofs.Predicate.Answers

/-!
# The order of operands

A node stops at the first child that decides, so an error is found in one order of its children and
passed by in another. What its comparisons settle has no order: they settle one answer at most, every
answer that is given is the settled one, and so no reordering turns true into false. Where an error
counts as false, the parts of a conjunction can be regrouped in any order.
-/

namespace JoinPlan.Predicate

/-! ## Settled answers -/

/-- Whether the comparisons of a predicate settle its answer, in whatever order they are asked: a node
has the neutral answer when all children have it, and the other one when some child has it. -/
inductive Settled (row : Row) : Predicate → Bool → Prop
  | leaf {c : Comparison} {a : Bool} (h : c.evaluate row = .ok a) : Settled row (.leaf c) a
  | all {name : String} {connective : Connective} {ps : List Predicate} {a : Bool}
      (h : ∀ p ∈ ps, Settled row p a) (ha : a = connective.neutral) :
      Settled row (.node name connective ps) a
  | one {name : String} {connective : Connective} {p : Predicate} {ps : List Predicate} {a : Bool}
      (hp : p ∈ ps) (h : Settled row p a) (ha : a ≠ connective.neutral) :
      Settled row (.node name connective ps) a

variable {row : Row} {connective : Connective} {name : String} {p q : Predicate}
  {ps : List Predicate} {a b : Bool}

theorem Settled.unique (h : Settled row p a) (h' : Settled row p b) : a = b := by
  induction h generalizing b with
  | leaf h =>
    cases h' with
    | leaf h' => exact Except.ok.inj (h.symm.trans h')
  | all _ ha ih =>
    cases h' with
    | all _ hb => exact ha.trans hb.symm
    | one hp hone _ => exact ih _ hp hone
  | one hp _ ha ih =>
    cases h' with
    | all h' _ => exact ih (h' _ hp)
    | one _ _ hb => exact (Bool.eq_not_of_ne ha).trans (Bool.eq_not_of_ne hb).symm

theorem Settled.cons (hp : Settled row p connective.neutral)
    (h : Settled row (.node name connective ps) a) :
    Settled row (.node name connective (p :: ps)) a := by
  cases h with
  | all h ha => exact .all (List.forall_mem_cons.mpr ⟨ha ▸ hp, h⟩) ha
  | one hq h ha => exact .one (List.mem_cons_of_mem p hq) h ha

mutual
theorem Settled.of_evaluate : (p : Predicate) → {a : Bool} → p.evaluate row = .ok a →
    Settled row p a
  | .leaf _, _, h => .leaf h
  | .node name connective ps, _, h =>
    Settled.of_evaluateUnder name connective ps (by rwa [evaluate_node] at h)

theorem Settled.of_evaluateUnder (name : String) (connective : Connective) :
    (ps : List Predicate) → {a : Bool} → evaluateUnder connective ps row = .ok a →
      Settled row (.node name connective ps) a
  | [], _, h => by
    rw [evaluateUnder_nil] at h
    exact .all (List.forall_mem_nil _) (Except.ok.inj h).symm
  | p :: ps, _, h => by
    -- either the first child is neutral and the rest answers, or it decides
    rw [evaluateUnder_cons, Connective.join_eq_ok] at h
    rcases h with ⟨hp, hrest⟩ | ⟨hp, ha⟩
    · exact (Settled.of_evaluate p hp).cons (Settled.of_evaluateUnder name connective ps hrest)
    · exact .one List.mem_cons_self (Settled.of_evaluate p hp) ha
end

/-! ## Reordering -/

/-- Whether a predicate is another one with the children of any of its nodes, at any depth, in any
other order. -/
inductive Reordered : Predicate → Predicate → Prop
  | refl (p : Predicate) : Reordered p p
  | trans {p q r : Predicate} (h : Reordered p q) (h' : Reordered q r) : Reordered p r
  | children {name : String} {connective : Connective} {ps qs : List Predicate} (h : ps.Perm qs) :
      Reordered (.node name connective ps) (.node name connective qs)
  | within {name : String} {connective : Connective} {p q : Predicate}
      (before after : List Predicate) (h : Reordered p q) :
      Reordered (.node name connective (before ++ p :: after))
        (.node name connective (before ++ q :: after))

theorem Settled.perm {qs : List Predicate} (hperm : ps.Perm qs)
    (h : Settled row (.node name connective ps) a) : Settled row (.node name connective qs) a := by
  cases h with
  | all h ha => exact .all (fun q hq => h q (hperm.mem_iff.mpr hq)) ha
  | one hp h ha => exact .one (hperm.mem_iff.mp hp) h ha

theorem Settled.replace {before after : List Predicate}
    (himp : ∀ a, Settled row p a → Settled row q a)
    (h : Settled row (.node name connective (before ++ p :: after)) a) :
    Settled row (.node name connective (before ++ q :: after)) a := by
  cases h with
  | all h ha =>
    rw [List.forall_mem_append, List.forall_mem_cons] at h
    obtain ⟨hbefore, hp, hafter⟩ := h
    refine .all ?_ ha
    rw [List.forall_mem_append, List.forall_mem_cons]
    exact ⟨hbefore, himp a hp, hafter⟩
  | one hr h ha =>
    rw [List.mem_append, List.mem_cons] at hr
    rcases hr with hr | rfl | hr
    · exact .one (List.mem_append_left _ hr) h ha
    · exact .one List.mem_append_cons_self (himp a h) ha
    · exact .one (List.mem_append_right before (List.mem_cons_of_mem q hr)) h ha

theorem Settled.reordered (h : p.Reordered q) (hp : Settled row p a) : Settled row q a := by
  induction h generalizing a with
  | refl => exact hp
  | trans _ _ ih ih' => exact ih' (ih hp)
  | children hperm => exact hp.perm hperm
  | within before after _ ih => exact hp.replace fun _ => ih

/-- A predicate and one that is reordered from it do not contradict each other: when both have an
answer it is the same. -/
theorem evaluate_eq_of_reordered {p q : Predicate} (h : p.Reordered q) {row : Row} {a b : Bool}
    (hp : p.evaluate row = .ok a) (hq : q.evaluate row = .ok b) : a = b := by
  have hsettled : Settled row q a := (Settled.of_evaluate p hp).reordered h
  exact hsettled.unique (Settled.of_evaluate q hq)

/-! ## Regrouping -/

/-- A row satisfies a predicate when it satisfies the conjunctions of the groups into which the parts
of the predicate are put, whatever the groups and their order. An empty group asks for nothing. -/
theorem accepts_iff_of_regrouped {p : Predicate} {groups : List (List Predicate)}
    (h : groups.flatten.Perm p.conjuncts) (row : Row) :
    p.accepts row = true ↔ ∀ ps ∈ groups, (andAll ps).all (·.accepts row) = true := by
  calc p.accepts row = true
      ↔ Passes p.conjuncts row := (passes_conjuncts row p).symm
    _ ↔ Passes groups.flatten row := (Passes.perm_iff h).symm
    _ ↔ ∀ ps ∈ groups, Passes ps row := Passes.flatten_iff
    _ ↔ ∀ ps ∈ groups, (andAll ps).all (·.accepts row) = true :=
      forall₂_congr fun ps _ => (all_andAll ps row).symm

/-! ### A gift -/

/-- A recent order, with a note that is no number. -/
def giftOrder : Row :=
  Dict.ofList [("days", .int 12), ("id", .int 7), ("note", .string "gift")]

def hasId (i : Int) : Predicate :=
  .compare (.column (.bare "id")) .eq (.literal (.scalar (toString i) (.int i)))

def recent : Predicate :=
  .compare (.column (.bare "days")) .lt (.literal (.scalar "30" (.int 30)))

def notedAbove : Predicate :=
  .compare (.column (.bare "note")) .gt (.literal (.scalar "3" (.int 3)))

/-- Either the order with the id 8 if its note is above 3, or the recent one with the id 7. -/
def giftQuery : Predicate :=
  or [and [hasId 8, notedAbove], and [or [recent, notedAbove], hasId 7]]

def giftQueryReordered : Predicate :=
  or [and [hasId 7, or [recent, notedAbove]], and [hasId 8, notedAbove]]

def giftQueryNoteFirst : Predicate :=
  or [and [notedAbove, hasId 8], and [or [recent, notedAbove], hasId 7]]

theorem reordered_giftQuery : giftQuery.Reordered giftQueryReordered :=
  .trans (.children (.swap ..)) (.within [] [and [hasId 8, notedAbove]] (.children (.swap ..)))

theorem reordered_giftQueryNoteFirst : giftQuery.Reordered giftQueryNoteFirst :=
  .within [] [and [or [recent, notedAbove], hasId 7]] (.children (.swap ..))

/-- Two orders pass by the note and give one answer. A third one meets it and has none. -/
theorem evaluate_eq_of_reordered_giftOrder :
    giftQuery.Reordered giftQueryReordered ∧
      (∃ a b, giftQuery.evaluate giftOrder = .ok a ∧ giftQueryReordered.evaluate giftOrder = .ok b ∧
        a = b) ∧
      giftQuery.Reordered giftQueryNoteFirst ∧
      (giftQueryNoteFirst.evaluate giftOrder).toOption = none := by
  have hfirst : giftQuery.evaluate giftOrder = .ok true := by rfl
  have hsecond : giftQueryReordered.evaluate giftOrder = .ok true := by rfl
  have hsame : true = true := evaluate_eq_of_reordered reordered_giftQuery hfirst hsecond
  exact ⟨reordered_giftQuery, ⟨true, true, hfirst, hsecond, hsame⟩, reordered_giftQueryNoteFirst, rfl⟩

def giftParts : Predicate :=
  and [notedAbove, and [hasId 8, and [], or [recent, notedAbove]]]

def giftGroups : List (List Predicate) :=
  [[or [recent, notedAbove]], [], [hasId 8, notedAbove]]

/-- The whole has no answer, as it meets the note first. The groups say that it is false. -/
theorem accepts_iff_of_regrouped_giftOrder :
    giftGroups.flatten.Perm giftParts.conjuncts ∧
      (giftParts.evaluate giftOrder).toOption = none ∧
      giftGroups.map (fun ps => (andAll ps).map fun p => (p.evaluate giftOrder).toOption) =
        [some (some true), none, some (some false)] ∧
      (giftParts.accepts giftOrder = true ↔
        ∀ ps ∈ giftGroups, (andAll ps).all (·.accepts giftOrder) = true) := by
  have hperm : giftGroups.flatten.Perm giftParts.conjuncts :=
    List.reverse_perm [notedAbove, hasId 8, or [recent, notedAbove]]
  exact ⟨hperm, rfl, rfl, accepts_iff_of_regrouped hperm giftOrder⟩

end JoinPlan.Predicate
