/-!
# Finite maps with text keys

A dict lists its entries in ascending order of their keys, each key once. So two dicts with the same
entries are equal, and walking through a dict has a fixed order.
-/

namespace JoinPlan

/-- Puts an entry into its place in an ordered list, instead of the one with the same key. -/
def insertEntry {α : Type} (k : String) (v : α) : List (String × α) → List (String × α)
  | [] => [(k, v)]
  | e :: es =>
    if k < e.1 then (k, v) :: e :: es
    else if k = e.1 then (k, v) :: es
    else e :: insertEntry k v es

theorem mem_insertEntry {α : Type} {k : String} {v : α} {e : String × α} :
    {es : List (String × α)} → e ∈ insertEntry k v es → e = (k, v) ∨ e ∈ es
  | [], h => by simp [insertEntry] at h; exact Or.inl h
  | d :: es, h => by
    unfold insertEntry at h
    split at h
    · rcases List.mem_cons.1 h with h | h
      · exact Or.inl h
      · exact Or.inr h
    · split at h
      · rcases List.mem_cons.1 h with h | h
        · exact Or.inl h
        · exact Or.inr (List.mem_cons_of_mem _ h)
      · rcases List.mem_cons.1 h with h | h
        · exact Or.inr (h ▸ List.mem_cons_self)
        · exact (mem_insertEntry h).imp id (List.mem_cons_of_mem _)

theorem pairwise_insertEntry {α : Type} (k : String) (v : α) :
    (es : List (String × α)) → es.Pairwise (·.1 < ·.1) →
      (insertEntry k v es).Pairwise (·.1 < ·.1)
  | [], _ => by simp [insertEntry]
  | e :: es, h => by
    rw [List.pairwise_cons] at h
    unfold insertEntry
    split
    · rename_i hlt
      refine List.pairwise_cons.2 ⟨fun d hd => ?_, List.pairwise_cons.2 h⟩
      rcases List.mem_cons.1 hd with rfl | hd
      · exact hlt
      · exact String.lt_trans hlt (h.1 d hd)
    · split
      · rename_i _ heq
        exact List.pairwise_cons.2 ⟨fun d hd => by simpa [heq] using h.1 d hd, h.2⟩
      · rename_i hge hne
        refine List.pairwise_cons.2 ⟨fun d hd => ?_, pairwise_insertEntry k v es h.2⟩
        rcases mem_insertEntry hd with rfl | hd
        · exact Decidable.byContradiction fun hn =>
            hne (String.le_antisymm (String.not_lt.1 hn) (String.not_lt.1 hge))
        · exact h.1 d hd

theorem lookup_cons_eq {α : Type} (k k₀ : String) (v₀ : α) (es : List (String × α)) :
    List.lookup k ((k₀, v₀) :: es) = if k = k₀ then some v₀ else es.lookup k := by
  rw [List.lookup_cons]
  by_cases h : k = k₀
  · simp [h]
  · simp [beq_false_of_ne h, h]

theorem lookup_insertEntry {α : Type} (k : String) (v : α) (k' : String) :
    (es : List (String × α)) →
      (insertEntry k v es).lookup k' = if k' = k then some v else es.lookup k'
  | [] => by rw [insertEntry, lookup_cons_eq]
  | (k₀, v₀) :: es => by
    unfold insertEntry
    split
    · rw [lookup_cons_eq]
    · split
      · rename_i _ heq
        obtain rfl : k = k₀ := heq
        by_cases h : k' = k <;> simp [lookup_cons_eq, h]
      · rename_i _ hne
        have hne : k ≠ k₀ := hne
        rw [lookup_cons_eq, lookup_insertEntry k v k' es, lookup_cons_eq]
        by_cases h : k' = k₀
        · simp [h, Ne.symm hne]
        · simp [h]

theorem lookup_filter_ne {α : Type} (k k' : String) :
    (es : List (String × α)) →
      (es.filter (·.1 != k)).lookup k' = if k' = k then none else es.lookup k'
  | [] => by simp
  | (k₀, v₀) :: es => by
    have ih := lookup_filter_ne k k' es
    by_cases h₀ : k₀ = k
    · rw [List.filter_cons_of_neg (by simp [h₀]), ih, lookup_cons_eq]
      by_cases h : k' = k <;> simp [h, h₀]
    · rw [List.filter_cons_of_pos (by simp [h₀]), lookup_cons_eq, ih, lookup_cons_eq]
      by_cases h : k' = k₀ <;> simp [h, h₀]

theorem mem_keys_insertEntry {α : Type} {k n : String} {v : α} :
    {es : List (String × α)} →
      (n ∈ (insertEntry k v es).map (·.1) ↔ n = k ∨ n ∈ es.map (·.1))
  | [] => by simp [insertEntry]
  | e :: es => by
    unfold insertEntry
    split
    · simp
    · split
      · rename_i _ heq
        simp [heq]
      · rw [List.map_cons, List.mem_cons, mem_keys_insertEntry, List.map_cons, List.mem_cons]
        exact or_left_comm

structure Dict (α : Type) where
  entries : List (String × α)
  ordered : entries.Pairwise (·.1 < ·.1)

namespace Dict

variable {α : Type}

def empty : Dict α := ⟨[], .nil⟩

instance : Inhabited (Dict α) := ⟨empty⟩

def insert (d : Dict α) (k : String) (v : α) : Dict α :=
  ⟨insertEntry k v d.entries, pairwise_insertEntry k v d.entries d.ordered⟩

def erase (d : Dict α) (k : String) : Dict α :=
  ⟨d.entries.filter (·.1 != k), d.ordered.sublist List.filter_sublist⟩

def get? (d : Dict α) (k : String) : Option α :=
  d.entries.lookup k

def contains (d : Dict α) (k : String) : Bool :=
  (d.get? k).isSome

def keys (d : Dict α) : List String :=
  d.entries.map (·.1)

def size (d : Dict α) : Nat :=
  d.entries.length

def isEmpty (d : Dict α) : Bool :=
  d.entries.isEmpty

/-- The dict of a list of entries. Of two with one key the later stays. -/
def ofList (es : List (String × α)) : Dict α :=
  es.foldl (fun d e => d.insert e.1 e.2) empty

/-! ## What a dict has under a key -/

@[simp] theorem get?_empty (k : String) : (empty : Dict α).get? k = none := rfl

theorem get?_insert (d : Dict α) (k k' : String) (v : α) :
    (d.insert k v).get? k' = if k' = k then some v else d.get? k' :=
  lookup_insertEntry k v k' d.entries

theorem get?_erase (d : Dict α) (k k' : String) :
    (d.erase k).get? k' = if k' = k then none else d.get? k' :=
  lookup_filter_ne k k' d.entries

theorem mem_keys_insert {d : Dict α} {k n : String} {v : α} :
    n ∈ (d.insert k v).keys ↔ n = k ∨ n ∈ d.keys :=
  mem_keys_insertEntry

end Dict

/-! ## Sets of names -/

/-- A set of names, in ascending order. -/
abbrev NameSet := Dict Unit

namespace NameSet

def ofList (names : List String) : NameSet :=
  Dict.ofList (names.map (·, ()))

def union (a b : NameSet) : NameSet :=
  b.keys.foldl (·.insert · ()) a

theorem mem_keys_foldl_insert {n : String} {names : List String} {a : NameSet} :
    n ∈ (names.foldl (·.insert · ()) a).keys ↔ n ∈ a.keys ∨ n ∈ names := by
  induction names generalizing a with
  | nil => simp
  | cons name names ih =>
    rw [List.foldl_cons, ih, Dict.mem_keys_insert, List.mem_cons, or_assoc]
    exact or_left_comm

theorem mem_keys_union {n : String} {a b : NameSet} :
    n ∈ (a.union b).keys ↔ n ∈ a.keys ∨ n ∈ b.keys :=
  mem_keys_foldl_insert

theorem mem_keys_ofList {n : String} {names : List String} :
    n ∈ (ofList names).keys ↔ n ∈ names := by
  rw [ofList, Dict.ofList, List.foldl_map, mem_keys_foldl_insert]
  exact or_iff_right nofun

end NameSet

end JoinPlan
