import JoinPlan.Proofs.Join.Keys
import JoinPlan.Proofs.Join.Resolve

/-!
# The sides of join keys

A key is a column of its own side as far as that side was asked for it and had an answer. Two
columns with one text make a key of their bare name on both sides, and neither side is asked.
-/

namespace JoinPlan

open Predicate

namespace Table

/-- Whether a key stands for a column of a table. A dot in front of the name of a column is not part
of its key. -/
def HasKey (t : Table) (key : String) : Prop :=
  key ∈ t.columns ∨ "." ++ key ∈ t.columns

instance (t : Table) (key : String) : Decidable (t.HasKey key) :=
  inferInstanceAs (Decidable (key ∈ t.columns ∨ "." ++ key ∈ t.columns))

/-- Whether a table has a column that a reference means. -/
def Knows (t : Table) (c : Column) : Prop :=
  (t.scope.resolve c.text).isSome = true

theorem hasKey_of_resolve {t : Table} {raw : String} {c : Column}
    (h : t.scope.resolve raw = some c) : t.HasKey c.text := by
  obtain ⟨name, hname, -, rfl⟩ := resolve_eq_some.mp h
  rcases Column.text_parse name with htext | htext
  · exact Or.inl (htext.symm ▸ hname)
  · exact Or.inr (htext.symm ▸ hname)

end Table

namespace JoinKeys

variable {t u : Table}

theorem hasKey_keyOn {c : Column} (h : t.Knows c) : t.HasKey (keyOn t.scope c) := by
  obtain ⟨d, hd⟩ := Option.isSome_iff_exists.mp h
  rw [keyOn, hd]
  exact Table.hasKey_of_resolve hd

/-- The first column of an equality decides which of the two is on the left. The side that it is
not on may not know the second column, of which only the bare name is left then. -/
theorem hasKey_of_pairOf {a b : Column} {k : KeyPair} (h : pairOf t.scope u.scope a b = some k) :
    (a.text = b.text ∧ k = ⟨b.name, b.name⟩) ∨
      (a.text ≠ b.text ∧
        (t.Knows a → t.HasKey k.left ∧ (u.Knows b → u.HasKey k.right)) ∧
        (¬t.Knows a → u.HasKey k.right ∧ (t.Knows b → t.HasKey k.left))) := by
  unfold pairOf at h
  split at h
  · rename_i htext
    cases h
    exact Or.inl ⟨htext, rfl⟩
  · rename_i htext
    refine Or.inr ⟨htext, ?_⟩
    split at h
    · rename_i c hc
      cases h
      have hknows : t.Knows a := Option.isSome_iff_exists.mpr ⟨c, hc⟩
      exact ⟨fun _ => ⟨Table.hasKey_of_resolve hc, hasKey_keyOn⟩, fun hnot => absurd hknows hnot⟩
    · rename_i hnone
      obtain ⟨c, hc, rfl⟩ := Option.map_eq_some_iff.mp h
      refine ⟨fun hknows => ?_, fun _ => ⟨Table.hasKey_of_resolve hc, hasKey_keyOn⟩⟩
      rw [Table.Knows, hnone] at hknows
      cases hknows

theorem mem_pairs {left right : Scope} {on : JoinCondition} {keys : JoinKeys} {k : KeyPair}
    (h : ofCondition on left right = .ok keys) (hk : k ∈ keys.pairs) :
    ∃ name a b, .leaf ⟨name, .column a, .eq, .column b⟩ ∈ on.predicate.conjuncts ∧
      pairOf left right a b = some k := by
  obtain ⟨ps, -, hps, rfl⟩ := ofCondition_eq_ok.mp h
  have hmem : some k ∈ ps.map some := List.mem_map.mpr ⟨k, List.mem_eraseDups.mp hk, rfl⟩
  rw [← hps] at hmem
  obtain ⟨e, he, hpair⟩ := List.mem_map.mp hmem
  obtain ⟨p, hp, hequated⟩ := List.mem_filterMap.mp he
  obtain ⟨name, rfl⟩ := equated?_eq_some.mp hequated
  exact ⟨name, e.1, e.2, hp, hpair⟩

/-- The keys of two tables are columns of their own sides, but for those of two columns with one
text and those that the other side of an equality does not know. -/
theorem keys_on_own_side {on : JoinCondition} {keys : JoinKeys}
    (h : ofCondition on t.scope u.scope = .ok keys) :
    ∀ k ∈ keys.pairs, ∃ name a b,
      .leaf ⟨name, .column a, .eq, .column b⟩ ∈ on.predicate.conjuncts ∧
        ((a.text = b.text ∧ k = ⟨b.name, b.name⟩) ∨
          (a.text ≠ b.text ∧
            (t.Knows a → t.HasKey k.left ∧ (u.Knows b → u.HasKey k.right)) ∧
            (¬t.Knows a → u.HasKey k.right ∧ (t.Knows b → t.HasKey k.left)))) := by
  intro k hk
  obtain ⟨name, a, b, hmem, hpair⟩ := mem_pairs h hk
  exact ⟨name, a, b, hmem, hasKey_of_pairOf hpair⟩

/-- The condition that two columns are equal. -/
def equality (a b : Column) : JoinCondition :=
  ⟨a.text ++ " = " ++ b.text, .compare (.column a) .eq (.column b)⟩

def orders : Table := ⟨"orders", none, ["id", "total"]⟩

def payments : Table := ⟨"payments", some "p", ["id", "order_id"]⟩

def events : Table := ⟨"events", some "e", [".id"]⟩

theorem keys_on_own_side_payments :
    ∃ keys, ofCondition (equality ⟨some "orders", "id"⟩ ⟨some "p", "order_id"⟩) orders.scope
        payments.scope = .ok keys ∧
      ∀ k ∈ keys.pairs, orders.HasKey k.left ∧ payments.HasKey k.right := by
  have hkeys : ofCondition (equality ⟨some "orders", "id"⟩ ⟨some "p", "order_id"⟩) orders.scope
      payments.scope = .ok ⟨[⟨"id", "order_id"⟩], false⟩ := rfl
  refine ⟨_, hkeys, fun k hk => ?_⟩
  obtain ⟨name, a, b, hmem, hpair⟩ := keys_on_own_side hkeys k hk
  cases List.mem_singleton.mp hmem
  rcases hpair with ⟨hsame, -⟩ | ⟨-, hsides, -⟩
  · exact absurd hsame (by decide +kernel)
  · obtain ⟨hleft, hright⟩ := hsides rfl
    exact ⟨hleft, hright rfl⟩

/-- A key can stand for no column of its side: where both columns have one text, where the side does
not know the second column, and where the name of the column starts with a dot. -/
theorem key_on_no_side :
    (ofCondition (equality ⟨some "orders", "total"⟩ ⟨some "orders", "total"⟩) orders.scope
        payments.scope = .ok ⟨[⟨"total", "total"⟩], false⟩ ∧
      "total" ∉ payments.columns) ∧
    (ofCondition (equality ⟨some "orders", "id"⟩ ⟨some "p", "order"⟩) orders.scope
        payments.scope = .ok ⟨[⟨"id", "order"⟩], false⟩ ∧
      "order" ∉ payments.columns) ∧
    (ofCondition (equality ⟨some "orders", "id"⟩ ⟨some "e", ".id"⟩) orders.scope
        events.scope = .ok ⟨[⟨"id", "id"⟩], false⟩ ∧
      "id" ∉ events.columns) :=
  ⟨⟨rfl, by decide⟩, ⟨rfl, by decide⟩, rfl, by decide⟩

end JoinKeys

end JoinPlan
