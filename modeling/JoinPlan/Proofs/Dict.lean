import JoinPlan.Dict
import Mathlib.Data.List.Nodup

/-!
# Entries of dicts

Dicts that have the same under every key are equal. So when entries with different keys are put into
a dict, their order does not matter.
-/

namespace JoinPlan.Dict

variable {α : Type} {d d' : Dict α} {k : String} {v : α} {es es' : List (String × α)}

/-! ## Equal dicts -/

theorem mem_iff_lookup (h : es.Pairwise (·.1 < ·.1)) : (k, v) ∈ es ↔ es.lookup k = some v := by
  induction es with
  | nil => exact iff_of_false List.not_mem_nil nofun
  | cons e es ih =>
    obtain ⟨k₀, v₀⟩ := e
    rw [List.pairwise_cons] at h
    rw [lookup_cons_eq, List.mem_cons, ih h.2, Prod.mk.injEq]
    split
    · rename_i hk
      subst hk
      -- The key is not there again, as all keys behind it are greater.
      have hnone : es.lookup k ≠ some v := fun hv =>
        String.lt_irrefl k (h.1 (k, v) ((ih h.2).mpr hv))
      simp [hnone, eq_comm]
    · rename_i hk
      simp [hk]

theorem nodup_entries (d : Dict α) : d.entries.Nodup := by
  apply d.ordered.imp
  rintro e _ hlt rfl
  exact String.lt_irrefl e.1 hlt

theorem ext_get? (h : ∀ k, d.get? k = d'.get? k) : d = d' := by
  have hperm : d.entries.Perm d'.entries := by
    rw [List.perm_ext_iff_of_nodup d.nodup_entries d'.nodup_entries]
    intro e
    rw [mem_iff_lookup d.ordered, mem_iff_lookup d'.ordered]
    exact iff_of_eq (congrArg (· = some e.2) (h e.1))
  have hentries : d.entries = d'.entries :=
    hperm.eq_of_pairwise (fun _ _ _ _ hlt hgt => absurd hgt (String.lt_asymm hlt)) d.ordered
      d'.ordered
  cases d
  cases d'
  cases hentries
  rfl

/-! ## Many entries -/

/-- The dict with the entries of a list put into it. Of two with one key the later stays. -/
def insertAll (d : Dict α) (es : List (String × α)) : Dict α :=
  es.foldl (fun d e => d.insert e.1 e.2) d

theorem insertAll_append (d : Dict α) (es es' : List (String × α)) :
    d.insertAll (es ++ es') = (d.insertAll es).insertAll es' :=
  List.foldl_append

theorem get?_insertAll_of_not_mem (h : k ∉ es.map (·.1)) : (d.insertAll es).get? k = d.get? k := by
  induction es generalizing d with
  | nil => rfl
  | cons e es ih =>
    rw [List.map_cons, List.mem_cons, not_or] at h
    exact (ih h.2).trans ((get?_insert d e.1 k e.2).trans (if_neg h.1))

theorem get?_insertAll_of_mem (hnodup : (es.map (·.1)).Nodup) (h : (k, v) ∈ es) :
    (d.insertAll es).get? k = some v := by
  induction es generalizing d with
  | nil => cases h
  | cons e es ih =>
    rw [List.map_cons, List.nodup_cons] at hnodup
    rcases List.mem_cons.mp h with rfl | h
    · have hkept := get?_insertAll_of_not_mem (d := d.insert k v) hnodup.1
      exact hkept.trans ((get?_insert d k k v).trans (if_pos rfl))
    · exact ih hnodup.2 h

theorem insertAll_perm (hnodup : (es.map (·.1)).Nodup) (hperm : es.Perm es') (d : Dict α) :
    d.insertAll es = d.insertAll es' := by
  have hnodup' : (es'.map (·.1)).Nodup := (hperm.map _).nodup_iff.mp hnodup
  apply ext_get?
  intro k
  by_cases hk : k ∈ es.map (·.1)
  · obtain ⟨e, he, rfl⟩ := List.mem_map.mp hk
    rw [get?_insertAll_of_mem hnodup he, get?_insertAll_of_mem hnodup' (hperm.mem_iff.mp he)]
  · have hk' : k ∉ es'.map (·.1) := mt (hperm.map _).mem_iff.mpr hk
    rw [get?_insertAll_of_not_mem hk, get?_insertAll_of_not_mem hk']

end JoinPlan.Dict
