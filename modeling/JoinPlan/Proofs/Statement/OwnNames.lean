import JoinPlan.Proofs.Branch
import JoinPlan.Proofs.Join.Leaves
import JoinPlan.Proofs.Statement.Clauses

/-!
# References by the name that a table answers to

A table of a query answers to its alias, or to its name as it is written when it has none. A reference
to a column is that name, a dot and the column, and its qualifier ends at the first dot. So a name
without a dot leads to the columns of its table, and a name of several parts leads to none of them.
-/

namespace JoinPlan

/-- What belongs to a side, of what belongs to the left one and to the right one. -/
def Side.pick {α : Type} (left right : α) : Side → α
  | .left => left
  | .right => right

/-! ## Tables of a query -/

namespace Sql.Relation

/-- The parts of the name that a table answers to. An empty alias is none. -/
def ownName : Relation → List Ident
  | .table name (some asName) _ _ => if asName.name.value = "" then name else [asName.name]
  | .table name none _ _ => name
  | .other _ _ => []

/-- The table that is named, if the catalog has it. -/
def table? (catalog : Catalog) : Relation → Option Table
  | .table name asName _ _ =>
    (catalog.get? (Reader.dotted name)).map fun entry =>
      ⟨Reader.dotted name, (asName.map (·.name.value)).filter (· ≠ ""), entry.columns⟩
  | .other _ _ => none

/-- The reference to a column by the name that the table answers to. -/
def reference (r : Relation) (column : Ident) : String :=
  (Reader.columnOfName (r.ownName ++ [column])).text

end Sql.Relation

namespace Reader

theorem dotted_append {parts : List Sql.Ident} (hne : parts ≠ []) (i : Sql.Ident) :
    dotted (parts ++ [i]) = dotted parts ++ "." ++ i.value := by
  induction parts with
  | nil => exact absurd rfl hne
  | cons p ps ih =>
    cases ps with
    | nil => simp [dotted, String.intercalate_cons_cons]
    | cons q ps =>
      have hrest := ih (List.cons_ne_nil q ps)
      simp only [dotted, List.cons_append, List.map_cons, String.intercalate_cons_cons] at hrest ⊢
      rw [hrest]
      simp only [String.append_assoc]

theorem columnOfName_append {parts : List Sql.Ident} (hne : parts ≠ []) (i : Sql.Ident) :
    columnOfName (parts ++ [i]) = .parse (dotted parts ++ "." ++ i.value) := by
  rw [← dotted_append hne]
  obtain ⟨p, ps, rfl⟩ := List.exists_cons_of_ne_nil hne
  cases ps <;> rfl

end Reader

namespace Sql.Relation

variable {catalog : Catalog} {r : Relation} {t : Table}

theorem dotted_ownName (h : r.table? catalog = some t) : Reader.dotted r.ownName = t.answer := by
  cases r with
  | other => cases h
  | table name asName =>
    obtain ⟨entry, -, rfl⟩ := Option.map_eq_some_iff.mp h
    cases asName with
    | none => rfl
    | some a =>
      by_cases hempty : a.name.value = ""
      · simp [ownName, hempty, Table.answer, Scope.answer, Option.filter]
      · simp [ownName, hempty, Table.answer, Scope.answer, Reader.dotted, Option.filter]

theorem reference_of_empty (h : r.table? catalog = some t) (hempty : t.answer = "") (i : Ident) :
    r.reference i = i.value := by
  by_cases hparts : r.ownName = []
  · rw [reference, hparts]
    rfl
  · rw [reference, Reader.columnOfName_append hparts, dotted_ownName h, hempty,
      Column.text_parse_eq, String.empty_append, withoutDot_dot_append]

theorem reference_of_name (h : r.table? catalog = some t) (hne : t.answer ≠ "") (i : Ident) :
    r.reference i = withoutDot (t.answer ++ "." ++ i.value) := by
  have hparts : r.ownName ≠ [] := by
    intro hnil
    apply hne
    rw [← dotted_ownName h, hnil]
    rfl
  rw [reference, Reader.columnOfName_append hparts, dotted_ownName h, Column.text_parse_eq]

/-- A table that a query names and the catalog has is what stands on a side of the join. -/
theorem exists_table {ref : TableRef} {side : JoinPlan.Source} (href : Reader.tableRef r = .ok ref)
    (hside : ref.source catalog = .ok side) :
    ∃ t, r.table? catalog = some t ∧ side.scope = t.scope := by
  obtain ⟨name, asName, args, more, rfl⟩ := Reader.tableRef_eq_ok href
  cases href
  unfold TableRef.source Source.ofCatalog? at hside
  cases hentry : catalog.get? (Reader.dotted name) with
  | none =>
    rw [hentry] at hside
    cases hside
  | some entry =>
    obtain ⟨kind, columns⟩ := entry
    refine ⟨_, Option.map_eq_some_iff.mpr ⟨_, hentry, rfl⟩, ?_⟩
    rw [hentry] at hside
    cases kind with
    | stream | dimension | lateral =>
      cases hside
      rfl

end Sql.Relation

/-! ## References by the own name -/

/-- The name behind a join with the table on its right of the column that has a name on a side. -/
def Table.nameBehind (u : Table) (name : String) : Side → String
  | .left => (Column.parse name).text
  | .right => (ofRightSide u.asName (Column.parse name)).text

theorem Join.columnText_of_meansOn {j : Join} {t u : Table} {raw name : String} {side : Side}
    (hleft : j.left.scope = t.scope) (hright : j.right.scope = u.scope)
    (h : MeansOn t u raw name side) : j.columnText raw = some (u.nameBehind name side) := by
  rw [columnText, resolve, hleft, hright]
  cases side with
  | left =>
    have hfound : t.scope.resolve raw = some (.parse name) :=
      Table.resolve_eq_some.mpr ⟨name, h.1, h.2, rfl⟩
    rw [resolveEither_of_left hfound]
    rfl
  | right =>
    obtain ⟨hnone, hu⟩ := h
    have hfound : u.scope.resolve raw = some (.parse name) :=
      Table.resolve_eq_some.mpr ⟨name, hu.1, hu.2, rfl⟩
    rw [resolveEither_of_right (Table.resolve_eq_none_iff.mpr hnone) hfound]
    rfl

theorem Join.columnText_of_none {j : Join} {t u : Table} {raw : String}
    (hleft : j.left.scope = t.scope) (hright : j.right.scope = u.scope)
    (ht : ∀ n, ¬ t.Offers raw n) (hu : ∀ n, ¬ u.Offers raw n) : j.columnText raw = none := by
  rw [columnText, resolve, hleft, hright, resolveEither, Table.resolve_eq_none_iff.mpr ht,
    Table.resolve_eq_none_iff.mpr hu]
  rfl

section Meaning

variable {t u : Table} {own name : String}

theorem meansOn_of_dotFree {side : Side} (hne : t.answer ≠ u.answer)
    (hown : (side.pick t u).answer = own) (hname : name ∈ (side.pick t u).columns)
    (hdot : '.' ∉ own.toList) : MeansOn t u (own ++ "." ++ name) name side := by
  have hsplit : splitQualifier (own ++ "." ++ name) = (some own, name) := splitQualifier_append hdot
  cases side with
  | left => exact ⟨hname, .inr (by rw [hsplit]; exact congrArg (fun q => (some q, name)) hown.symm)⟩
  | right =>
    refine ⟨?_, hname, .inr (by rw [hsplit]; exact congrArg (fun q => (some q, name)) hown.symm)⟩
    rintro n ⟨-, h | h⟩
    · rw [hsplit] at h
      cases h
    · rw [hsplit] at h
      cases h
      exact hne hown.symm

/-- A qualifier ends before the first dot. -/
theorem dotFree_of_splitQualifier {raw qualifier : String}
    (h : splitQualifier raw = (some qualifier, name)) : '.' ∉ qualifier.toList := by
  rcases dotFree_or_qualified raw with hraw | ⟨q, n, hq, rfl⟩
  · rw [splitQualifier_of_dotFree hraw] at h
    cases h
  · rw [splitQualifier_append hq] at h
    cases h
    exact hq

theorem dotFree_of_splitQualifier_none {raw : String} (h : splitQualifier raw = (none, name)) :
    '.' ∉ raw.toList := by
  rcases dotFree_or_qualified raw with hraw | ⟨q, n, hq, rfl⟩
  · exact hraw
  · rw [splitQualifier_append hq] at h
    cases h

theorem dot_mem_withoutDot (hne : own ≠ "") :
    '.' ∈ (withoutDot (own ++ "." ++ name)).toList := by
  obtain ⟨c, cs, hcs⟩ := List.exists_cons_of_ne_nil (mt String.toList_eq_nil_iff.mp hne)
  have htext : (own ++ "." ++ name).toList = c :: (cs ++ '.' :: name.toList) := by simp [hcs]
  rw [withoutDot]
  split
  · simp [htext]
  · simp

theorem ne_empty_of_dot_mem (hdot : '.' ∈ own.toList) : own ≠ "" := by
  rintro rfl
  cases hdot

/-- A name with a dot is no qualifier. -/
theorem not_offers_of_dot (hdot : '.' ∈ t.answer.toList) :
    ¬ t.Offers (withoutDot (t.answer ++ "." ++ name)) name := by
  rintro ⟨-, h | h⟩
  · exact dotFree_of_splitQualifier_none h (dot_mem_withoutDot (ne_empty_of_dot_mem hdot))
  · exact dotFree_of_splitQualifier h hdot

/-- A reference by a name of several parts asks for a column with a dot. -/
theorem not_offers_of_parts (hdot : '.' ∈ own.toList) (hhead : own.toList.head? ≠ some '.')
    (hcolumns : DotFree t.columns) (n : String) :
    ¬ t.Offers (withoutDot (own ++ "." ++ name)) n := by
  rcases dotFree_or_qualified own with hown | ⟨first, others, hfirst, rfl⟩
  · exact absurd hdot hown
  have hne : first ≠ "" := by
    rintro rfl
    exact hhead (by simp)
  have hsplit : splitQualifier (withoutDot (first ++ "." ++ others ++ "." ++ name)) =
      (some first, others ++ "." ++ name) := by
    have hassoc : first ++ "." ++ others ++ "." ++ name = first ++ "." ++ (others ++ "." ++ name) := by
      simp only [String.append_assoc]
    rw [hassoc, withoutDot_append hfirst hne, splitQualifier_append hfirst]
  rintro ⟨hn, h | h⟩
  · rw [hsplit] at h
    cases h
  · rw [hsplit] at h
    cases h
    exact hcolumns _ hn (by simp)

end Meaning

/-- Whether a query joins two tables. -/
def Sql.Select.Joins (s : Sql.Select) (left right : Sql.Relation) : Prop :=
  ∃ side constraint clauses, s.sources = [⟨left, [⟨side, right, constraint, clauses⟩]⟩]

/-- The sides of a join that is read from a query are the tables that the query names. -/
theorem exists_tables_of_joinQuery {D : Sql.Dialect} {content : String} {s : Sql.Select}
    {r r' : Sql.Relation} {q : JoinQuery} {catalog : Catalog} {j : Join} (hs : s.Joins r r')
    (hread : Reader.joinQuery D content s = .ok q) (hjoin : q.join catalog = .ok j) :
    ∃ t u, r.table? catalog = some t ∧ r'.table? catalog = some u ∧
      j.left.scope = t.scope ∧ j.right.scope = u.scope := by
  obtain ⟨side, constraint, clauses, hsources⟩ := hs
  unfold Reader.joinQuery at hread
  rw [hsources] at hread
  simp only [Outcome.bind_eq_ok, Outcome.pure_eq_ok] at hread
  obtain ⟨left, hleft, right, hright, kind, -, on, -, rfl⟩ := hread
  obtain ⟨hsource, hjoined⟩ := JoinQuery.of_join hjoin
  obtain ⟨t, ht, htscope⟩ := Sql.Relation.exists_table hleft hsource
  obtain ⟨u, hu, huscope⟩ := Sql.Relation.exists_table hright hjoined
  exact ⟨t, u, ht, hu, htscope, huscope⟩

/-- How a join reads a reference that should mean the column of that name on a side, by the name that
the table of the side answers to. -/
structure ReadsOwnName (j : Join) (t u : Table) (side : Side) (raw name : String) : Prop where
  /-- A name without a dot leads to the column. -/
  found : '.' ∉ (side.pick t u).answer.toList → (side.pick t u).answer ≠ "" →
    MeansOn t u raw name side ∧ j.columnText raw = some (u.nameBehind name side)
  /-- A name with a dot does not lead there. -/
  missed : '.' ∈ (side.pick t u).answer.toList → ¬ MeansOn t u raw name side
  /-- It leads nowhere when it starts with a part and no column has a dot. -/
  unknown : '.' ∈ (side.pick t u).answer.toList → (side.pick t u).answer.toList.head? ≠ some '.' →
    DotFree t.columns → DotFree u.columns → j.columnText raw = none
  /-- An empty name says nothing. -/
  bare : (side.pick t u).answer = "" → raw = name

/-- In a join of two tables that answer to different names, whether a reference by the name of a table
leads to its column depends on whether there is a dot in that name. -/
theorem readsOwnName_of_joinQuery {D : Sql.Dialect} {content : String} {s : Sql.Select}
    {r r' : Sql.Relation} {q : JoinQuery} {catalog : Catalog} {j : Join} (hs : s.Joins r r')
    (hread : Reader.joinQuery D content s = .ok q) (hjoin : q.join catalog = .ok j) :
    ∃ t u, r.table? catalog = some t ∧ r'.table? catalog = some u ∧
      (t.answer ≠ u.answer → ∀ (side : Side) (i : Sql.Ident), i.value ∈ (side.pick t u).columns →
        ReadsOwnName j t u side ((side.pick r r').reference i) i.value) := by
  obtain ⟨t, u, ht, hu, hleft, hright⟩ := exists_tables_of_joinQuery hs hread hjoin
  refine ⟨t, u, ht, hu, fun hne side i hi => ?_⟩
  have htable : (side.pick r r').table? catalog = some (side.pick t u) := by
    cases side
    · exact ht
    · exact hu
  have hreference (hname : (side.pick t u).answer ≠ "") :=
    Sql.Relation.reference_of_name htable hname i
  constructor
  case found =>
    intro hdot hname
    have hmeans : MeansOn t u ((side.pick r r').reference i) i.value side := by
      rw [hreference hname, withoutDot_append hdot hname]
      exact meansOn_of_dotFree hne rfl hi hdot
    exact ⟨hmeans, Join.columnText_of_meansOn hleft hright hmeans⟩
  case missed =>
    intro hdot
    rw [hreference (ne_empty_of_dot_mem hdot)]
    cases side with
    | left => exact not_offers_of_dot hdot
    | right => exact fun h => not_offers_of_dot hdot h.2
  case unknown =>
    intro hdot hhead htcolumns hucolumns
    rw [hreference (ne_empty_of_dot_mem hdot)]
    exact Join.columnText_of_none hleft hright (not_offers_of_parts hdot hhead htcolumns)
      (not_offers_of_parts hdot hhead hucolumns)
  case bare => exact fun hname => Sql.Relation.reference_of_empty htable hname i

/-! ### Orders of a schema -/

/-- The orders of a schema, and payments. -/
def schemaLedger : Catalog :=
  Dict.ofList [("payments", ⟨.stream, ["id", "order_id"]⟩), ("s.orders", ⟨.stream, ["id"]⟩)]

def schemaOrders : Sql.Relation :=
  .table [⟨"s", none⟩, ⟨"orders", none⟩] none none []

def aliasedPayments : Sql.Relation :=
  .table [⟨"payments", none⟩] (some ⟨⟨"p", none⟩, []⟩) none []

def schemaSelect : Sql.Select where
  distinct := none
  items := [.star]
  sources := [⟨schemaOrders, [⟨.inner, aliasedPayments, .none, []⟩]⟩]
  selection := none
  grouping := .by [] []
  having := none
  windows := none
  qualify := none
  windowsFirst := false
  more := []

def ordersOfSchema : Table := ⟨"s.orders", none, ["id"]⟩

def paymentsAsP : Table := ⟨"payments", some "p", ["id", "order_id"]⟩

def schemaJoin : Join :=
  ⟨.stream ordersOfSchema [], .stream paymentsAsP [], .inner, none⟩

/-- The alias leads to the payments. The name of the orders has two parts and leads nowhere. -/
theorem readsOwnName_schemaOrders :
    schemaSelect.Joins schemaOrders aliasedPayments ∧
      MeansOn ordersOfSchema paymentsAsP (aliasedPayments.reference ⟨"id", none⟩) "id" .right ∧
      schemaJoin.columnText (aliasedPayments.reference ⟨"id", none⟩) = some "p.id" ∧
      ¬ MeansOn ordersOfSchema paymentsAsP (schemaOrders.reference ⟨"id", none⟩) "id" .left ∧
      schemaJoin.columnText (schemaOrders.reference ⟨"id", none⟩) = none := by
  have hjoins : schemaSelect.Joins schemaOrders aliasedPayments := ⟨.inner, .none, [], rfl⟩
  have hread : Reader.joinQuery .generic "" schemaSelect =
      .ok ⟨"", ⟨"s.orders", none⟩, ⟨"payments", some "p"⟩, .inner, none, []⟩ := rfl
  have hjoin : (⟨"", ⟨"s.orders", none⟩, ⟨"payments", some "p"⟩, .inner, none, []⟩ :
      JoinQuery).join schemaLedger = .ok schemaJoin := rfl
  obtain ⟨t, u, ht, hu, hreads⟩ := readsOwnName_of_joinQuery hjoins hread hjoin
  obtain rfl : t = ordersOfSchema := Option.some.inj (ht.symm.trans rfl)
  obtain rfl : u = paymentsAsP := Option.some.inj (hu.symm.trans rfl)
  have hne : ordersOfSchema.answer ≠ paymentsAsP.answer := by decide
  have hpayments := hreads hne .right ⟨"id", none⟩ (by decide)
  have horders := hreads hne .left ⟨"id", none⟩ (by decide)
  have hdot : '.' ∈ (Side.left.pick ordersOfSchema paymentsAsP).answer.toList := by decide +kernel
  obtain ⟨hmeans, htext⟩ := hpayments.found (by decide +kernel) (by decide)
  exact ⟨hjoins, hmeans, htext, horders.missed hdot,
    horders.unknown hdot (by decide +kernel) (by decide +kernel) (by decide +kernel)⟩

/-- A table answers to its name as it is written, but a reference by that name is unknown. -/
theorem columnText_schemaOrders :
    ∃ st j, Statement.read
        "SELECT s.orders.id FROM s.orders JOIN payments AS p ON s.orders.id = p.order_id" = .ok st ∧
      st.query.join schemaLedger = .ok j ∧
      st.query.source = ⟨"s.orders", none⟩ ∧ st.query.joined = ⟨"payments", some "p"⟩ ∧
      j.left.columnNames.keys = ["id"] ∧
      st.query.items.map (·.output.text) = ["s.orders.id"] ∧ j.columnText "s.orders.id" = none := by
  obtain ⟨st, hst, hjoined⟩ := Option.bind_eq_some_iff.mp
    (show (Statement.read
        "SELECT s.orders.id FROM s.orders JOIN payments AS p ON s.orders.id = p.order_id").toOption.bind
          (fun st => (st.query.join schemaLedger).toOption.map fun j =>
            (st.query.source, st.query.joined, j.left.columnNames.keys,
              st.query.items.map (·.output.text), j.columnText "s.orders.id")) =
        some (⟨"s.orders", none⟩, ⟨"payments", some "p"⟩, ["id"], ["s.orders.id"], none) by
      decide +kernel)
  obtain ⟨j, hj, hall⟩ := Outcome.toOption_map_eq_some.mp hjoined
  simp only [Prod.mk.injEq] at hall
  exact ⟨st, j, Outcome.toOption_eq_some.mp hst, hj, hall⟩

end JoinPlan
