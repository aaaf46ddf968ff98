/-!
# Sorted maps

A finite map kept as a list of entries in strictly ascending key order, so that every map has
exactly one representation and its order can be read off.

**Results.**
* `get?_insert_self`, `get?_insert_of_ne`: an insertion changes one key.
* `get?_erase_self`, `get?_erase_of_ne`: a removal changes one key.
* `mem_entries_iff`: the entries are the keys that have a value.
* `entries_modify_append`: a change of one value leaves the other entries as they are.
* `ofList_entries`: a map is made again from its entries.
-/

namespace QuoteBridge

/-- Entries in strictly ascending order of their keys. -/
@[ext] structure SortedMap (κ : Type) (α : Type) [Ord κ] where
  entries : List (κ × α)
  ascending : entries.Pairwise (fun a b => compare a.1 b.1 = .lt)

namespace SortedMap

variable {κ α : Type} [Ord κ]

section Lists

/-- Puts an entry in its place and replaces an entry of the same key. -/
def insertEntry (k : κ) (v : α) : List (κ × α) → List (κ × α)
  | [] => [(k, v)]
  | e :: es =>
      match compare k e.1 with
      | .lt => (k, v) :: e :: es
      | .eq => (k, v) :: es
      | .gt => e :: insertEntry k v es

/-- Value of the first entry with an equal key. -/
def findEntry (k : κ) : List (κ × α) → Option α
  | [] => none
  | e :: es => if compare k e.1 = .eq then some e.2 else findEntry k es

/-- Leaves out the entries with an equal key. -/
def eraseEntry (k : κ) (es : List (κ × α)) : List (κ × α) :=
  es.filter (fun e => compare k e.1 ≠ .eq)

theorem mem_insertEntry {k : κ} {v : α} {x : κ × α} :
    ∀ {es : List (κ × α)}, x ∈ insertEntry k v es → x = (k, v) ∨ x ∈ es
  | [], h => by simpa [insertEntry] using h
  | e :: es, h => by
      unfold insertEntry at h
      split at h
      · simpa using h
      · rcases List.mem_cons.mp h with h | h
        · exact Or.inl h
        · exact Or.inr (List.mem_cons_of_mem _ h)
      · rcases List.mem_cons.mp h with h | h
        · exact Or.inr (by simp [h])
        · rcases mem_insertEntry h with h | h
          · exact Or.inl h
          · exact Or.inr (List.mem_cons_of_mem _ h)

variable [Std.TransOrd κ] [Std.LawfulEqOrd κ]

theorem ascending_insertEntry {k : κ} {v : α} :
    ∀ {es : List (κ × α)}, es.Pairwise (fun a b => compare a.1 b.1 = .lt) →
      (insertEntry k v es).Pairwise (fun a b => compare a.1 b.1 = .lt)
  | [], _ => by simp [insertEntry]
  | e :: es, h => by
      have he := List.pairwise_cons.mp h
      unfold insertEntry
      split
      · rename_i hc
        refine List.pairwise_cons.mpr ⟨fun x hx => ?_, h⟩
        rcases List.mem_cons.mp hx with rfl | hx
        · exact hc
        · exact Std.TransCmp.lt_trans hc (he.1 x hx)
      · rename_i hc
        have hk : k = e.1 := Std.LawfulEqCmp.eq_of_compare hc
        exact List.pairwise_cons.mpr ⟨fun x hx => hk ▸ he.1 x hx, he.2⟩
      · rename_i hc
        refine List.pairwise_cons.mpr ⟨fun x hx => ?_, ascending_insertEntry he.2⟩
        rcases mem_insertEntry hx with rfl | hx
        · exact Std.OrientedCmp.gt_iff_lt.mp hc
        · exact he.1 x hx

end Lists

/-- The map without entries. -/
def empty : SortedMap κ α := ⟨[], List.Pairwise.nil⟩

instance : EmptyCollection (SortedMap κ α) := ⟨empty⟩

instance : Inhabited (SortedMap κ α) := ⟨empty⟩

/-- Value stored under a key. -/
def get? (m : SortedMap κ α) (k : κ) : Option α := findEntry k m.entries

/-- Whether a key has a value. -/
def contains (m : SortedMap κ α) (k : κ) : Bool := (m.get? k).isSome

/-- Number of keys. -/
def size (m : SortedMap κ α) : Nat := m.entries.length

/-- Whether there is no key. -/
def isEmpty (m : SortedMap κ α) : Bool := m.entries.isEmpty

/-- Keys in ascending order. -/
def keys (m : SortedMap κ α) : List κ := m.entries.map (·.1)

/-- Removes a key. -/
def erase (m : SortedMap κ α) (k : κ) : SortedMap κ α :=
  ⟨eraseEntry k m.entries, m.ascending.filter _⟩

/-- Applies a function to every value. -/
def map {β : Type} (f : κ → α → β) (m : SortedMap κ α) : SortedMap κ β :=
  ⟨m.entries.map (fun e => (e.1, f e.1 e.2)), by
    rw [List.pairwise_map]
    exact m.ascending⟩

/-- Applies a function to the value of one key. -/
def modify (m : SortedMap κ α) (k : κ) (f : α → α) : SortedMap κ α :=
  m.map (fun k' v => if compare k k' = .eq then f v else v)

variable [Std.TransOrd κ] [Std.LawfulEqOrd κ]

/-- Stores a value under a key. -/
def insert (m : SortedMap κ α) (k : κ) (v : α) : SortedMap κ α :=
  ⟨insertEntry k v m.entries, ascending_insertEntry m.ascending⟩

/-- Stores a list of entries; of a repeated key the last value stays. -/
def ofList (es : List (κ × α)) : SortedMap κ α :=
  es.foldl (fun m e => m.insert e.1 e.2) empty

section Lookup

variable {κ α : Type} [Ord κ] [Std.LawfulEqOrd κ]

theorem findEntry_insertEntry_self (k : κ) (v : α) :
    ∀ es : List (κ × α), findEntry k (insertEntry k v es) = some v
  | [] => by simp [insertEntry, findEntry]
  | e :: es => by
      unfold insertEntry
      split
      · simp [findEntry]
      · simp [findEntry]
      · rename_i hc
        simp [findEntry, hc, findEntry_insertEntry_self k v es]

theorem findEntry_insertEntry_of_ne {k k' : κ} (h : k' ≠ k) (v : α) :
    ∀ es : List (κ × α), findEntry k' (insertEntry k v es) = findEntry k' es
  | [] => by
      have hc : compare k' k ≠ .eq := fun hc => h (Std.LawfulEqCmp.eq_of_compare hc)
      simp [insertEntry, findEntry, hc]
  | e :: es => by
      have hc : compare k' k ≠ .eq := fun hc => h (Std.LawfulEqCmp.eq_of_compare hc)
      unfold insertEntry
      split
      · simp [findEntry, hc]
      · rename_i he
        have hk : k = e.1 := Std.LawfulEqCmp.eq_of_compare he
        simp [findEntry, hc, ← hk]
      · simp [findEntry, findEntry_insertEntry_of_ne h v es]

theorem findEntry_eraseEntry_of_ne {k k' : κ} (h : k' ≠ k) :
    ∀ es : List (κ × α), findEntry k' (eraseEntry k es) = findEntry k' es
  | [] => rfl
  | e :: es => by
      have ih := findEntry_eraseEntry_of_ne h es
      unfold eraseEntry at ih ⊢
      by_cases hc : compare k e.1 = .eq
      · have hk : k = e.1 := Std.LawfulEqCmp.eq_of_compare hc
        have hc' : compare k' e.1 ≠ .eq :=
          fun hc' => h ((Std.LawfulEqCmp.eq_of_compare hc').trans hk.symm)
        simpa [findEntry, hc, hc'] using ih
      · by_cases hc' : compare k' e.1 = .eq
        · simp [findEntry, hc, hc']
        · simpa [findEntry, hc, hc'] using ih

theorem get?_erase_of_ne (m : SortedMap κ α) {k k' : κ} (h : k' ≠ k) :
    (m.erase k).get? k' = m.get? k' :=
  findEntry_eraseEntry_of_ne h m.entries

variable [Std.TransOrd κ]

@[simp] theorem get?_insert_self (m : SortedMap κ α) (k : κ) (v : α) :
    (m.insert k v).get? k = some v :=
  findEntry_insertEntry_self k v m.entries

theorem get?_insert_of_ne (m : SortedMap κ α) {k k' : κ} (h : k' ≠ k) (v : α) :
    (m.insert k v).get? k' = m.get? k' :=
  findEntry_insertEntry_of_ne h v m.entries

end Lookup

section Removal

variable {κ α : Type} [Ord κ]

theorem findEntry_eraseEntry_self (k : κ) :
    ∀ es : List (κ × α), findEntry k (eraseEntry k es) = none
  | [] => rfl
  | e :: es => by
      have ih := findEntry_eraseEntry_self k es
      unfold eraseEntry at ih ⊢
      by_cases hc : compare k e.1 = .eq
      · simpa [hc] using ih
      · simpa [findEntry, hc] using ih

@[simp] theorem get?_empty (k : κ) : (empty : SortedMap κ α).get? k = none := rfl

@[simp] theorem get?_erase_self (m : SortedMap κ α) (k : κ) : (m.erase k).get? k = none :=
  findEntry_eraseEntry_self k m.entries

end Removal

section Mapping

variable {κ α β : Type} [Ord κ] [Std.LawfulEqOrd κ]

theorem findEntry_map (f : κ → α → β) (k : κ) :
    ∀ es : List (κ × α),
      findEntry k (es.map (fun e => (e.1, f e.1 e.2))) = (findEntry k es).map (f k)
  | [] => rfl
  | e :: es => by
      by_cases hc : compare k e.1 = .eq
      · have hk : k = e.1 := Std.LawfulEqCmp.eq_of_compare hc
        simp [findEntry, ← hk]
      · simp [findEntry, hc, findEntry_map f k es]

@[simp] theorem get?_map (m : SortedMap κ α) (f : κ → α → β) (k : κ) :
    (m.map f).get? k = (m.get? k).map (f k) :=
  findEntry_map f k m.entries

@[simp] theorem get?_modify_self (m : SortedMap κ α) (k : κ) (f : α → α) :
    (m.modify k f).get? k = (m.get? k).map f := by
  simp [modify]

theorem get?_modify_of_ne (m : SortedMap κ α) {k k' : κ} (h : k' ≠ k) (f : α → α) :
    (m.modify k f).get? k' = m.get? k' := by
  have hc : compare k k' ≠ .eq := fun hc => h (Std.LawfulEqCmp.eq_of_compare hc).symm
  simp [modify, hc]

end Mapping

section Entries

variable {κ α : Type} [Ord κ] [Std.LawfulEqOrd κ]

theorem mem_of_findEntry {k : κ} {v : α} :
    ∀ {es : List (κ × α)}, findEntry k es = some v → (k, v) ∈ es
  | [], h => by cases h
  | e :: es, h => by
      by_cases hc : compare k e.1 = .eq
      · have hk : k = e.1 := Std.LawfulEqCmp.eq_of_compare hc
        have hv : e.2 = v := by simpa [findEntry, hc] using h
        simp [hk, ← hv]
      · exact List.mem_cons_of_mem _ (mem_of_findEntry (by simpa [findEntry, hc] using h))

theorem findEntry_of_mem {k : κ} {v : α} :
    ∀ {es : List (κ × α)}, es.Pairwise (fun a b => compare a.1 b.1 = .lt) → (k, v) ∈ es →
      findEntry k es = some v
  | [], _, h => by cases h
  | e :: es, hs, h => by
      have hs := List.pairwise_cons.mp hs
      rcases List.mem_cons.mp h with rfl | h
      · simp [findEntry]
      · have hc : compare k e.1 ≠ .eq := by
          intro hc
          have hlt := hs.1 _ h
          rw [← Std.LawfulEqCmp.eq_of_compare hc] at hlt
          simp at hlt
        simp [findEntry, hc, findEntry_of_mem hs.2 h]

/-- The entries are the keys that have a value. -/
theorem mem_entries_iff (m : SortedMap κ α) {k : κ} {v : α} :
    (k, v) ∈ m.entries ↔ m.get? k = some v :=
  ⟨findEntry_of_mem m.ascending, mem_of_findEntry⟩

/-- The entry of a key stands apart from the entries of other keys. -/
theorem exists_entries_eq_append (m : SortedMap κ α) {k : κ} {v : α} (h : m.get? k = some v) :
    ∃ before after, m.entries = before ++ (k, v) :: after ∧
      (∀ e ∈ before, e.1 ≠ k) ∧ ∀ e ∈ after, e.1 ≠ k := by
  obtain ⟨before, after, hm⟩ := List.append_of_mem (m.mem_entries_iff.mpr h)
  have hs := m.ascending
  rw [hm, List.pairwise_append, List.pairwise_cons] at hs
  obtain ⟨-, ⟨hafter, -⟩, hbefore⟩ := hs
  refine ⟨before, after, hm, fun e he hk => ?_, fun e he hk => ?_⟩
  · have hlt := hbefore e he (k, v) List.mem_cons_self
    simp [hk] at hlt
  · have hlt := hafter e he
    simp [hk] at hlt

/-- A change of the value of one key leaves every other entry as it is. -/
theorem entries_modify_append (m : SortedMap κ α) {k : κ} {v : α} {before after : List (κ × α)}
    (h : m.entries = before ++ (k, v) :: after) (f : α → α) :
    (m.modify k f).entries = before ++ (k, f v) :: after := by
  have hs := m.ascending
  rw [h, List.pairwise_append, List.pairwise_cons] at hs
  obtain ⟨-, ⟨hafter, -⟩, hbefore⟩ := hs
  have hsame : ∀ {es : List (κ × α)}, (∀ e ∈ es, compare k e.1 ≠ .eq) →
      es.map (fun e => (e.1, if compare k e.1 = .eq then f e.2 else e.2)) = es := by
    intro es hes
    refine (List.map_congr_left (fun e he => ?_)).trans (List.map_id es)
    rw [if_neg (hes e he)]
    rfl
  have hfront : ∀ e ∈ before, compare k e.1 ≠ .eq := by
    intro e he hc
    have hlt := hbefore e he (k, v) List.mem_cons_self
    rw [Std.LawfulEqCmp.eq_of_compare hc] at hlt
    simp at hlt
  have hback : ∀ e ∈ after, compare k e.1 ≠ .eq := by
    intro e he hc
    rw [hafter e he] at hc
    cases hc
  show m.entries.map _ = _
  rw [h, List.map_append, List.map_cons, hsame hfront, hsame hback]
  simp

theorem mem_keys_iff (m : SortedMap κ α) {k : κ} : k ∈ m.keys ↔ (m.get? k).isSome := by
  rw [keys, List.mem_map, Option.isSome_iff_exists]
  constructor
  · rintro ⟨e, he, rfl⟩
    exact ⟨e.2, m.mem_entries_iff.mp he⟩
  · rintro ⟨v, hv⟩
    exact ⟨(k, v), m.mem_entries_iff.mpr hv, rfl⟩

end Entries

section Rebuilding

variable {κ α : Type} [Ord κ] [Std.TransOrd κ]

theorem insertEntry_of_forall_lt {k : κ} {v : α} :
    ∀ {es : List (κ × α)}, (∀ e ∈ es, compare e.1 k = .lt) → insertEntry k v es = es ++ [(k, v)]
  | [], _ => rfl
  | e :: es, h => by
      have he : compare k e.1 = .gt :=
        Std.OrientedCmp.gt_iff_lt.mpr (h e List.mem_cons_self)
      have ih := insertEntry_of_forall_lt (v := v) (fun x hx => h x (List.mem_cons_of_mem _ hx))
      simp [insertEntry, he, ih]

variable [Std.LawfulEqOrd κ]

theorem entries_foldl_insert :
    ∀ (es : List (κ × α)) (m : SortedMap κ α),
      (m.entries ++ es).Pairwise (fun a b => compare a.1 b.1 = .lt) →
      (es.foldl (fun m e => m.insert e.1 e.2) m).entries = m.entries ++ es
  | [], m, _ => by simp
  | e :: es, m, h => by
      have hlt : ∀ x ∈ m.entries, compare x.1 e.1 = .lt := fun x hx =>
        (List.pairwise_append.mp h).2.2 x hx e List.mem_cons_self
      have hm : (m.insert e.1 e.2).entries = m.entries ++ [e] := insertEntry_of_forall_lt hlt
      have ih := entries_foldl_insert es (m.insert e.1 e.2) (by rw [hm]; simpa using h)
      rw [List.foldl_cons, ih, hm, List.append_assoc, List.singleton_append]

/-- A map is made again from its entries. -/
@[simp] theorem ofList_entries (m : SortedMap κ α) : ofList m.entries = m := by
  have h := entries_foldl_insert m.entries empty (by simpa [empty] using m.ascending)
  exact SortedMap.ext (by simpa [ofList, empty] using h)

end Rebuilding

end SortedMap

end QuoteBridge
