import Mathlib.Data.List.Induction
import Mathlib.Data.List.Sort
import QuoteBridge.SortedMap

/-!
# Entries of sorted maps

What is stored under the keys determines the entries, and so the map.

**Results.**
* `SortedMap.ext_get?`: maps with the same values are equal.
* `SortedMap.perm_entries_insert`, `SortedMap.perm_entries_erase`: one entry comes or goes, and the
  entries of the other keys stay.
* `SortedMap.get?_ofList`: of a repeated key the last value stays.
-/

namespace QuoteBridge
namespace SortedMap

variable {κ α : Type} [Ord κ]

theorem entries_erase_sublist (m : SortedMap κ α) (k : κ) :
    (m.erase k).entries.Sublist m.entries :=
  List.filter_sublist

variable [Std.LawfulEqOrd κ]

theorem nodup_keys (m : SortedMap κ α) : m.keys.Nodup := by
  refine List.pairwise_map.mpr (m.ascending.imp (fun hlt heq => ?_))
  rw [heq] at hlt
  simp at hlt

theorem nodup_entries (m : SortedMap κ α) : m.entries.Nodup :=
  List.Nodup.of_map _ m.nodup_keys

theorem not_mem_entries_erase (m : SortedMap κ α) (k : κ) (v : α) : (k, v) ∉ (m.erase k).entries := by
  rw [mem_entries_iff, get?_erase_self]
  simp

/-- The value of a key stands beside the entries of the other keys. -/
theorem perm_entries_erase {m : SortedMap κ α} {k : κ} {v : α} (h : m.get? k = some v) :
    m.entries.Perm ((k, v) :: (m.erase k).entries) := by
  have hnodup : ((k, v) :: (m.erase k).entries).Nodup :=
    List.nodup_cons.mpr ⟨m.not_mem_entries_erase k v, (m.erase k).nodup_entries⟩
  refine (List.perm_ext_iff_of_nodup m.nodup_entries hnodup).mpr (fun ⟨k', v'⟩ => ?_)
  rw [List.mem_cons, mem_entries_iff, mem_entries_iff]
  by_cases hk : k' = k
  · subst hk
    rw [h, get?_erase_self]
    simp [eq_comm]
  · rw [m.get?_erase_of_ne hk]
    simp [hk]

variable [Std.TransOrd κ]

/-- Maps with the same values are equal. -/
theorem ext_get? {m m' : SortedMap κ α} (h : ∀ k, m.get? k = m'.get? k) : m = m' := by
  have hperm : m.entries.Perm m'.entries := by
    refine (List.perm_ext_iff_of_nodup m.nodup_entries m'.nodup_entries).mpr (fun ⟨k, v⟩ => ?_)
    rw [m.mem_entries_iff, m'.mem_entries_iff, h]
  refine SortedMap.ext (hperm.eq_of_pairwise (fun a b _ _ hab hba => ?_) m.ascending m'.ascending)
  rw [Std.OrientedOrd.eq_swap, hab] at hba
  cases hba

theorem erase_insert (m : SortedMap κ α) (k : κ) (v : α) : (m.insert k v).erase k = m.erase k := by
  refine ext_get? (fun k' => ?_)
  by_cases hk : k' = k
  · rw [hk, get?_erase_self, get?_erase_self]
  · rw [get?_erase_of_ne _ hk, get?_insert_of_ne _ hk, get?_erase_of_ne _ hk]

/-- A stored value stands beside the entries of the other keys. -/
theorem perm_entries_insert (m : SortedMap κ α) (k : κ) (v : α) :
    (m.insert k v).entries.Perm ((k, v) :: (m.erase k).entries) := by
  have h := perm_entries_erase (m.get?_insert_self k v)
  rwa [erase_insert] at h

theorem ofList_concat (es : List (κ × α)) (e : κ × α) :
    ofList (es ++ [e]) = (ofList es).insert e.1 e.2 := by
  simp [ofList]

/-- Of a repeated key the last value stays. -/
theorem get?_ofList [DecidableEq κ] (es : List (κ × α)) (k : κ) :
    (ofList es).get? k = ((es.filter (fun e => e.1 = k)).getLast?).map (·.2) := by
  induction es using List.reverseRecOn with
  | nil => rfl
  | append_singleton es e ih =>
      rw [ofList_concat, List.filter_append]
      by_cases hk : e.1 = k
      · rw [← hk, get?_insert_self]
        simp
      · rw [get?_insert_of_ne _ (Ne.symm hk), ih]
        simp [hk]

end SortedMap
end QuoteBridge
