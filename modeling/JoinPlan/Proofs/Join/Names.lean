import JoinPlan.Proofs.Join.Resolve

/-!
# Names of columns behind a join

Behind a join of two tables a column of the left one goes by its own name, and a column of the right
one stands behind the alias of its table. Where the right table has no alias its columns keep their
own names, and a name that both tables have is the name of two columns.
-/

namespace JoinPlan

namespace Table

/-- The alias of a table. An empty one is none. -/
def alias? (t : Table) : Option String :=
  t.asName.filter (· ≠ "")

/-- The name behind a join of a column of the table on its right. -/
def nameOnRight (t : Table) (name : String) : String :=
  match t.alias? with
  | some qualifier => qualifier ++ "." ++ name
  | none => name

/-- Whether a table has a column of that name and a reference means it. -/
def Offers (t : Table) (raw name : String) : Prop :=
  name ∈ t.columns ∧ t.MeantBy name raw

instance (t : Table) (raw name : String) : Decidable (t.Offers raw name) :=
  inferInstanceAs (Decidable (_ ∧ (_ ∨ _)))

variable {t : Table} {raw name : String}

theorem resolve_of_offers (hdot : DotFree t.columns) (h : t.Offers raw name) :
    t.scope.resolve raw = some (.bare name) :=
  resolve_eq_some.mpr ⟨name, h.1, h.2, (Column.parse_of_dotFree (hdot name h.1)).symm⟩

theorem resolve_eq_none_iff : t.scope.resolve raw = none ↔ ∀ name, ¬t.Offers raw name := by
  rw [Option.eq_none_iff_forall_ne_some]
  constructor
  · intro h name hname
    exact h _ (resolve_eq_some.mpr ⟨name, hname.1, hname.2, rfl⟩)
  · intro h c hc
    obtain ⟨name, hname, hmeant, -⟩ := resolve_eq_some.mp hc
    exact h name ⟨hname, hmeant⟩

theorem text_ofRightSide (t : Table) (name : String) :
    (ofRightSide t.asName (.bare name)).text = t.nameOnRight name := by
  unfold nameOnRight alias?
  rcases t.asName with _ | qualifier
  · rfl
  · rw [ofRightSide_bare]
    by_cases hempty : qualifier = ""
    · subst hempty
      rfl
    · rw [Column.text_qualified hempty, Option.filter_some_pos (by simpa using hempty)]

/-- A name without a dot is that of a column on the right only where no alias stands before it. -/
theorem eq_nameOnRight_iff (hdot : '.' ∉ raw.toList) :
    raw = t.nameOnRight name ↔ t.alias? = none ∧ raw = name := by
  unfold nameOnRight
  cases t.alias? with
  | none => simp
  | some qualifier =>
    refine iff_of_false ?_ nofun
    rintro rfl
    exact hdot (by simp)

end Table

/-! ## Two tables -/

/-- Whether a reference means the column of that name on a side of a join of two tables. The right
table is asked when the left one has no answer. -/
def MeansOn (t u : Table) (raw name : String) : Side → Prop
  | .left => t.Offers raw name
  | .right => (∀ n, ¬t.Offers raw n) ∧ u.Offers raw name

namespace Join

variable {t u : Table} {fs gs : List Predicate} {kind : JoinKind} {on : Option JoinCondition}
  {raw name : String}

theorem columnText_of_left (hdot : DotFree t.columns) (h : MeansOn t u raw name .left) :
    (⟨.stream t fs, .stream u gs, kind, on⟩ : Join).columnText raw = some name := by
  have hleft : t.scope.resolve raw = some (.bare name) := Table.resolve_of_offers hdot h
  exact congrArg (Option.map Column.text) (resolveEither_of_left hleft)

theorem columnText_of_right (hdot : DotFree u.columns) (h : MeansOn t u raw name .right) :
    (⟨.stream t fs, .stream u gs, kind, on⟩ : Join).columnText raw = some (u.nameOnRight name) := by
  have hleft : t.scope.resolve raw = none := Table.resolve_eq_none_iff.mpr h.1
  have hright : u.scope.resolve raw = some (.bare name) := Table.resolve_of_offers hdot h.2
  rw [← u.text_ofRightSide]
  exact congrArg (Option.map Column.text) (resolveEither_of_right hleft hright)

/-- A reference to a column on the left and one to a column on the right get names behind a join of
two streams. They get one name just when the right table has no alias and the names of the two
columns are the same. -/
theorem columnText_left_eq_right_iff (hdot : DotFree t.columns) (hdot' : DotFree u.columns)
    {raw' name' : String} (h : MeansOn t u raw name .left) (h' : MeansOn t u raw' name' .right) :
    ∃ x y, (⟨.stream t fs, .stream u gs, kind, on⟩ : Join).columnText raw = some x ∧
      (⟨.stream t fs, .stream u gs, kind, on⟩ : Join).columnText raw' = some y ∧
      (x = y ↔ u.alias? = none ∧ name = name') :=
  ⟨name, u.nameOnRight name', columnText_of_left hdot h, columnText_of_right hdot' h',
    Table.eq_nameOnRight_iff (hdot name h.1)⟩

/-- Orders, on the left. -/
def orders : Table := ⟨"orders", none, ["id"]⟩

/-- Payments, on the right, under an alias or under their own name. -/
def payments (asName : Option String) : Table := ⟨"payments", asName, ["id", "order_id"]⟩

theorem columnText_left_eq_right_iff_payments :
    MeansOn orders (payments (some "p")) "orders.id" "id" .left ∧
      MeansOn orders (payments (some "p")) "p.id" "id" .right ∧
      ∃ x y,
        (⟨.stream orders [], .stream (payments (some "p")) [], .inner, none⟩ : Join).columnText
            "orders.id" = some x ∧
          (⟨.stream orders [], .stream (payments (some "p")) [], .inner, none⟩ : Join).columnText
            "p.id" = some y ∧ x ≠ y := by
  have hleft : MeansOn orders (payments (some "p")) "orders.id" "id" .left := by
    show orders.Offers "orders.id" "id"
    decide +kernel
  have hright : MeansOn orders (payments (some "p")) "p.id" "id" .right := by
    refine ⟨Table.resolve_eq_none_iff.mp rfl, ?_⟩
    decide +kernel
  obtain ⟨x, y, hx, hy, hxy⟩ :
      ∃ x y,
        (⟨.stream orders [], .stream (payments (some "p")) [], .inner, none⟩ : Join).columnText
            "orders.id" = some x ∧
          (⟨.stream orders [], .stream (payments (some "p")) [], .inner, none⟩ : Join).columnText
            "p.id" = some y ∧ (x = y ↔ (payments (some "p")).alias? = none ∧ "id" = "id") :=
    columnText_left_eq_right_iff (by decide +kernel) (by decide +kernel) hleft hright
  refine ⟨hleft, hright, x, y, hx, hy, ?_⟩
  intro hsame
  cases (hxy.mp hsame).1

/-- Two tables that answer to different names can have columns of one name behind a join. -/
theorem columnText_same_without_alias :
    DotFree orders.columns ∧ DotFree (payments none).columns ∧
      orders.answer ≠ (payments none).answer ∧
      MeansOn orders (payments none) "orders.id" "id" .left ∧
      MeansOn orders (payments none) "payments.id" "id" .right ∧
      (⟨.stream orders [], .stream (payments none) [], .inner, none⟩ : Join).columnText
          "orders.id" = some "id" ∧
      (⟨.stream orders [], .stream (payments none) [], .inner, none⟩ : Join).columnText
          "payments.id" = some "id" := by
  refine ⟨by decide +kernel, by decide +kernel, by decide +kernel, ?_,
    ⟨Table.resolve_eq_none_iff.mp rfl, ?_⟩, rfl, rfl⟩
  · show orders.Offers "orders.id" "id"
    decide +kernel
  · decide +kernel

end Join

end JoinPlan
