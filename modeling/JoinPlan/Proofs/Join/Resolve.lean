import JoinPlan.Join.Source
import Mathlib.Data.List.TakeWhile

/-!
# What references mean

A table answers a reference that has no qualifier, or its own one, with the column of that name.
-/

namespace JoinPlan

/-! ## Names without a dot -/

/-- Whether no column has a dot in its name. -/
def DotFree (columns : List String) : Prop :=
  ∀ c ∈ columns, '.' ∉ c.toList

instance (columns : List String) : Decidable (DotFree columns) :=
  inferInstanceAs (Decidable (∀ c ∈ columns, '.' ∉ c.toList))

theorem splitQualifier_of_dotFree {raw : String} (h : '.' ∉ raw.toList) :
    splitQualifier raw = (none, raw) := by
  have hdrop : raw.toList.dropWhile (· ≠ '.') = [] := by
    refine List.dropWhile_eq_nil_iff.mpr fun c hc => decide_eq_true ?_
    rintro rfl
    exact h hc
  simp only [splitQualifier, hdrop]

theorem Column.parse_of_dotFree {raw : String} (h : '.' ∉ raw.toList) :
    Column.parse raw = .bare raw := by
  simp only [parse, splitQualifier_of_dotFree h]

/-! ## Names with a qualifier -/

theorem splitQualifier_append {qualifier name : String} (h : '.' ∉ qualifier.toList) :
    splitQualifier (qualifier ++ "." ++ name) = (some qualifier, name) := by
  have hpoint : ∀ c ∈ qualifier.toList, decide (c ≠ '.') = true :=
    fun c hc => decide_eq_true fun heq => h (heq ▸ hc)
  have htext : (qualifier ++ "." ++ name).toList = qualifier.toList ++ '.' :: name.toList := by simp
  have htake : (qualifier.toList ++ '.' :: name.toList).takeWhile (· ≠ '.') = qualifier.toList := by
    rw [List.takeWhile_append_of_pos hpoint]
    simp
  have hdrop : (qualifier.toList ++ '.' :: name.toList).dropWhile (· ≠ '.') = '.' :: name.toList := by
    rw [List.dropWhile_append_of_pos hpoint]
    simp
  simp only [splitQualifier, htext, htake, hdrop, String.ofList_toList]

theorem Column.parse_append {qualifier name : String} (h : '.' ∉ qualifier.toList) :
    Column.parse (qualifier ++ "." ++ name) = .qualified qualifier name := by
  simp only [parse, splitQualifier_append h]

/-- A reference has no dot, or a qualifier without one before its first dot. -/
theorem dotFree_or_qualified (raw : String) :
    '.' ∉ raw.toList ∨ ∃ qualifier name, '.' ∉ qualifier.toList ∧ raw = qualifier ++ "." ++ name := by
  by_cases h : '.' ∈ raw.toList
  · obtain ⟨before, after, hraw, hbefore⟩ := List.eq_append_cons_of_mem h
    refine Or.inr ⟨String.ofList before, String.ofList after, by simpa using hbefore, ?_⟩
    rw [← String.toList_inj, hraw]
    simp
  · exact Or.inl h

theorem Column.text_qualified {qualifier name : String} (h : qualifier ≠ "") :
    (Column.qualified qualifier name).text = qualifier ++ "." ++ name := by
  simp only [qualified, if_neg h, text]

theorem Column.text_qualified_empty (name : String) : (Column.qualified "" name).text = name := rfl

/-- As text a column is what it was read from, but for a dot in front. -/
theorem Column.text_parse (raw : String) :
    (Column.parse raw).text = raw ∨ "." ++ (Column.parse raw).text = raw := by
  rcases dotFree_or_qualified raw with h | ⟨qualifier, name, h, rfl⟩
  · rw [parse_of_dotFree h]
    exact Or.inl rfl
  · rw [parse_append h]
    by_cases hempty : qualifier = ""
    · rw [hempty, text_qualified_empty]
      exact Or.inr rfl
    · exact Or.inl (text_qualified hempty)

/-! ## Tables -/

namespace Table

/-- The name that a table answers to. -/
def answer (t : Table) : String :=
  Scope.answer t.name t.asName

/-- Whether a reference means the column of that name in a table, if the table has it. -/
def MeantBy (t : Table) (name raw : String) : Prop :=
  splitQualifier raw = (none, name) ∨ splitQualifier raw = (some t.answer, name)

theorem resolve_eq_some {t : Table} {raw : String} {c : Column} :
    t.scope.resolve raw = some c ↔
      ∃ name ∈ t.columns, t.MeantBy name raw ∧ c = Column.parse name := by
  unfold Scope.resolve MeantBy
  rcases splitQualifier raw with ⟨_ | qualifier, name⟩
  · simp only [scope, Scope.named, Option.map_eq_some_iff]
    constructor
    · rintro ⟨x, hx, rfl⟩
      split at hx
      · cases hx
        exact ⟨name, ‹_›, Or.inl rfl, rfl⟩
      · cases hx
    · rintro ⟨x, hx, h | h, rfl⟩
      · cases h
        exact ⟨name, if_pos hx, rfl⟩
      · cases h
  · simp only [scope, Scope.named, beq_iff_eq]
    constructor
    · intro h
      split at h
      · rename_i hq
        obtain ⟨x, hx, rfl⟩ := Option.map_eq_some_iff.mp h
        split at hx
        · cases hx
          exact ⟨name, ‹_›, Or.inr (by rw [hq, answer]), rfl⟩
        · cases hx
      · cases h
    · rintro ⟨x, hx, h | h, rfl⟩
      · cases h
      · cases h
        simp [answer, hx]

/-- A table without dots in its columns answers with a column that has no qualifier. -/
theorem resolve_of_dotFree {t : Table} (hdot : DotFree t.columns)
    {raw : String} {c : Column} (h : t.scope.resolve raw = some c) :
    ∃ name ∈ t.columns, c = .bare name := by
  obtain ⟨name, hname, -, rfl⟩ := resolve_eq_some.mp h
  exact ⟨name, hname, Column.parse_of_dotFree (hdot name hname)⟩

end Table

/-! ## Two sides -/

theorem resolveEither_of_left {raw : String} {left right : Scope} {c : Column}
    (h : left.resolve raw = some c) : resolveEither raw left right = some c := by
  simp only [resolveEither, h]

theorem resolveEither_of_right {raw : String} {left right : Scope} {c : Column}
    (hleft : left.resolve raw = none) (h : right.resolve raw = some c) :
    resolveEither raw left right = some (ofRightSide right.asName c) := by
  simp only [resolveEither, hleft, h, Option.map_some]

theorem ofRightSide_bare (qualifier name : String) :
    ofRightSide (some qualifier) (.bare name) = .qualified qualifier name := rfl

end JoinPlan
