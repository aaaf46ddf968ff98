import QuoteBridge.Adapter.Book
import QuoteBridge.Generator.Gate

/-!
# Requests at the gate

The ids that the gate holds after requests in a row, and the replay that makes them agree with the
book of the other side.

**Input.**  A book and a gate, each seen as a map from items to subscription ids.

**Results.**
* `Gate.id?_applyAll_replay`: the replay leaves exactly the ids of the book, whatever the gate held.
* `Gate.subscribe_mem_of_id?_applyAll`: an id at the gate was there or is asked for.
* `Gate.id?_pass`: an event that passes changes no id.
* `Gate.pass_of_sent`, `Gate.pass_subscribe`: what a subscription gets.
-/

namespace QuoteBridge

namespace Book

variable {H : Type}

/-- The subscription id that a book has for an item. -/
def id? (i : Item) (b : Book H) : Option SubscriptionId := (b.subscriptions.get? i).map (·.id)

theorem id?_resubscribeAll (i : Item) (b : Book H) : b.resubscribeAll.id? i = b.id? i := by
  simp [id?, resubscribeAll, Function.comp_def]

/-- A flag tells nothing of what a subscription is otherwise. -/
theorem map_get?_setSnapshotSent {γ : Type} {f : Subscription H → γ}
    (hf : ∀ sub value, f { sub with snapshotSent := value } = f sub) (i j : Item) (value : Bool)
    (b : Book H) :
    ((b.setSnapshotSent j value).subscriptions.get? i).map f = (b.subscriptions.get? i).map f := by
  by_cases h : i = j
  · subst h
    simp [setSnapshotSent, Function.comp_def, hf]
  · simp [setSnapshotSent, SortedMap.get?_modify_of_ne, h]

theorem id?_setSnapshotSent (i j : Item) (value : Bool) (b : Book H) :
    (b.setSnapshotSent j value).id? i = b.id? i :=
  map_get?_setSnapshotSent (fun _ _ => rfl) i j value b

/-- A registration gives its item the next id, and a request that waits changes no id. -/
theorem id?_insert_self (i : Item) (handle : H) (r : Request) (b : Book H) :
    ((b.insert i handle).2.2.push r).id? i = some b.nextId := by
  simp [id?, insert, push]

theorem id?_insert_of_ne {i j : Item} (hj : j ≠ i) (handle : H) (r : Request) (b : Book H) :
    ((b.insert i handle).2.2.push r).id? j = b.id? j := by
  simp [id?, insert, push, SortedMap.get?_insert_of_ne _ hj]

theorem id?_remove_self (i : Item) (r : Request) (b : Book H) :
    ((b.remove i).2.push r).id? i = none := by
  simp [id?, remove, push]

theorem id?_remove_of_ne {i j : Item} (hj : j ≠ i) (r : Request) (b : Book H) :
    ((b.remove i).2.push r).id? j = b.id? j := by
  simp [id?, remove, push, SortedMap.get?_erase_of_ne _ hj]

end Book

namespace Gate

/-- The subscription id that the gate has for an item. -/
def id? (i : Item) (g : Gate) : Option SubscriptionId := (g.tenure? i).map (·.id)

/-- Applies control requests in a row. -/
def applyAll (rs : List Request) (g : Gate) : Gate := rs.foldl (fun g r => g.apply r) g

section Single

variable (g : Gate) {i j : Item}

@[simp] theorem id?_empty (i : Item) : empty.id? i = none := rfl

@[simp] theorem id?_apply_reset (i : Item) : (g.apply .reset).id? i = none := rfl

@[simp] theorem id?_apply_subscribe_self (i : Item) (n : SubscriptionId) :
    (g.apply (.subscribe i n)).id? i = some n := by
  simp [id?, apply]

theorem tenure?_apply_subscribe_of_ne (h : j ≠ i) (n : SubscriptionId) :
    (g.apply (.subscribe i n)).tenure? j = g.tenure? j :=
  g.tenure?_subscribe_of_ne n h

theorem id?_apply_subscribe_of_ne (h : j ≠ i) (n : SubscriptionId) :
    (g.apply (.subscribe i n)).id? j = g.id? j := by
  rw [id?, g.tenure?_apply_subscribe_of_ne h, id?]

/-- A request to end a subscription works if it has the registered id. -/
theorem tenure?_apply_unsubscribe_self (i : Item) (n : SubscriptionId) :
    (g.apply (.unsubscribe i n)).tenure? i = (g.tenure? i).filter (fun t => t.id ≠ n) := by
  simp only [apply, unsubscribe]
  cases ht : g.tenure? i with
  | none => simp [ht]
  | some t =>
      by_cases hn : t.id = n
      · simp only [hn, if_true]
        simp [tenure?, Option.filter_some, hn]
      · simp [Option.filter_some, hn, ht]

theorem id?_apply_unsubscribe_self (i : Item) (n : SubscriptionId) :
    (g.apply (.unsubscribe i n)).id? i = if g.id? i = some n then none else g.id? i := by
  rw [id?, tenure?_apply_unsubscribe_self, id?]
  cases g.tenure? i with
  | none => simp
  | some t => by_cases hn : t.id = n <;> simp [Option.filter_some, hn]

theorem tenure?_apply_unsubscribe_of_ne (h : j ≠ i) (n : SubscriptionId) :
    (g.apply (.unsubscribe i n)).tenure? j = g.tenure? j := by
  simp only [apply, unsubscribe]
  cases ht : g.tenure? i with
  | none => rfl
  | some t =>
      by_cases hn : t.id = n
      · simp only [hn, if_true]
        exact SortedMap.get?_erase_of_ne g.tenures h
      · simp [hn]

theorem id?_apply_unsubscribe_of_ne (h : j ≠ i) (n : SubscriptionId) :
    (g.apply (.unsubscribe i n)).id? j = g.id? j := by
  rw [id?, g.tenure?_apply_unsubscribe_of_ne h, id?]

/-- A request that is no subscription leaves a subscription as it is, or removes it. -/
theorem tenure?_apply_cases (r : Request) (i : Item) :
    (∃ n, r = .subscribe i n) ∨ (g.apply r).tenure? i = g.tenure? i ∨
      (g.apply r).tenure? i = none := by
  cases r with
  | reset => exact Or.inr (Or.inr rfl)
  | subscribe j n =>
      by_cases h : i = j
      · exact Or.inl ⟨n, by rw [h]⟩
      · exact Or.inr (Or.inl (g.tenure?_apply_subscribe_of_ne h n))
  | unsubscribe j n =>
      by_cases h : i = j
      · subst h
        rw [g.tenure?_apply_unsubscribe_self]
        cases g.tenure? i with
        | none => exact Or.inr (Or.inl rfl)
        | some t => by_cases hn : t.id = n <;> simp [Option.filter_some, hn]
      · exact Or.inr (Or.inl (g.tenure?_apply_unsubscribe_of_ne h n))

theorem tenure?_pass_of_ne (h : j ≠ i) (isSnapshot : Bool) :
    (g.pass i isSnapshot).2.tenure? j = g.tenure? j := by
  unfold pass
  split
  · rfl
  · split
    · rfl
    · split
      · simp [tenure?, SortedMap.get?_insert_of_ne, h]
      · rfl

/-- A subscription that has its snapshot gets every event as a change. -/
theorem pass_of_sent {n : SubscriptionId} (h : g.tenure? i = some ⟨n, true⟩)
    (isSnapshot : Bool) : g.pass i isSnapshot = (.publish n false, g) := by
  simp [pass, h]

/-- An event passes as the snapshot if none was sent yet, and else as a change. -/
theorem tenure?_pass_of_publish {n m : SubscriptionId} {sent isSnapshot passedAs : Bool}
    (h : g.tenure? i = some ⟨n, sent⟩) (hp : (g.pass i isSnapshot).1 = .publish m passedAs) :
    m = n ∧ passedAs = !sent ∧ (g.pass i isSnapshot).2.tenure? i = some ⟨n, true⟩ := by
  cases sent with
  | true =>
      rw [g.pass_of_sent h] at hp ⊢
      simp only [GateDecision.publish.injEq] at hp
      exact ⟨hp.1.symm, hp.2.symm, h⟩
  | false =>
      cases isSnapshot with
      | false => simp [pass, h] at hp
      | true =>
          simp only [pass, h, Bool.false_eq_true, if_false, if_true,
            GateDecision.publish.injEq] at hp ⊢
          exact ⟨hp.1.symm, hp.2.symm, by simp [tenure?]⟩

/-- An event that is dropped leaves the gate as it is. -/
theorem pass_of_drop {isSnapshot : Bool} (h : (g.pass i isSnapshot).1 = .drop) :
    (g.pass i isSnapshot).2 = g := by
  unfold pass at h ⊢
  split
  · rfl
  · split
    · rfl
    · rename_i ht hn
      cases isSnapshot with
      | true => simp [ht, hn] at h
      | false => rfl

/-- A request to end a subscription that ends none leaves the gate as it is. -/
theorem unsubscribe_of_ne_removed {n : SubscriptionId} (h : (g.unsubscribe i n).1 ≠ .removed) :
    (g.unsubscribe i n).2 = g := by
  unfold unsubscribe at h ⊢
  split
  · rfl
  · rename_i t ht
    by_cases hn : t.id = n
    · simp [ht, hn] at h
    · simp [hn]

/-- A subscription that waits for its snapshot gets it. -/
theorem pass_subscribe (i : Item) (n : SubscriptionId) :
    ((g.apply (.subscribe i n)).pass i true).1 = .publish n true ∧
      ((g.apply (.subscribe i n)).pass i true).2.tenure? i = some ⟨n, true⟩ := by
  have ht : (g.apply (.subscribe i n)).tenure? i = some ⟨n, false⟩ := g.tenure?_subscribe_self i n
  simp only [pass, ht, Bool.false_eq_true, if_false, if_true, true_and]
  simp [tenure?]

/-- An event that passes changes no id. -/
@[simp] theorem id?_pass (i j : Item) (isSnapshot : Bool) :
    (g.pass i isSnapshot).2.id? j = g.id? j := by
  by_cases h : j = i
  · subst h
    unfold pass
    split
    · rfl
    · rename_i t ht
      split
      · rfl
      · split
        · simpa [id?, tenure?] using (congrArg (Option.map (·.id)) ht).symm
        · rfl
  · rw [id?, g.tenure?_pass_of_ne h, id?]

end Single

section Many

variable {i : Item} {n : SubscriptionId}

@[simp] theorem applyAll_nil (g : Gate) : g.applyAll [] = g := rfl

@[simp] theorem applyAll_cons (r : Request) (rs : List Request) (g : Gate) :
    g.applyAll (r :: rs) = (g.apply r).applyAll rs := rfl

@[simp] theorem applyAll_append (rs rs' : List Request) (g : Gate) :
    g.applyAll (rs ++ rs') = (g.applyAll rs).applyAll rs' :=
  List.foldl_append

/-- Gates with the same ids have the same ids after a request. -/
theorem id?_apply_congr {g g' : Gate} (h : ∀ i, g.id? i = g'.id? i) (r : Request) (i : Item) :
    (g.apply r).id? i = (g'.apply r).id? i := by
  cases r with
  | reset => rfl
  | subscribe j n =>
      by_cases hi : i = j
      · simp [hi]
      · rw [g.id?_apply_subscribe_of_ne hi, g'.id?_apply_subscribe_of_ne hi, h]
  | unsubscribe j n =>
      by_cases hi : i = j
      · simp [hi, id?_apply_unsubscribe_self, h]
      · rw [g.id?_apply_unsubscribe_of_ne hi, g'.id?_apply_unsubscribe_of_ne hi, h]

/-- Gates with the same ids have the same ids after requests in a row. -/
theorem id?_applyAll_congr (rs : List Request) {g g' : Gate} (h : ∀ i, g.id? i = g'.id? i)
    (i : Item) : (g.applyAll rs).id? i = (g'.applyAll rs).id? i := by
  induction rs generalizing g g' with
  | nil => exact h i
  | cons r rs ih => exact ih (id?_apply_congr h r)

/-- An id at the gate after requests was there before, or one of the requests asks for it. -/
theorem subscribe_mem_of_id?_applyAll {rs : List Request} {g : Gate}
    (h : (g.applyAll rs).id? i = some n) : .subscribe i n ∈ rs ∨ g.id? i = some n := by
  induction rs generalizing g with
  | nil => exact Or.inr h
  | cons r rs ih =>
      rw [applyAll_cons] at h
      rcases ih h with hr | hg
      · exact Or.inl (List.mem_cons_of_mem _ hr)
      · rcases g.tenure?_apply_cases r i with ⟨m, rfl⟩ | hsame | hnone
        · rw [id?_apply_subscribe_self] at hg
          exact Or.inl (Option.some.inj hg ▸ List.mem_cons_self)
        · exact Or.inr (by rw [id?, ← hsame]; exact hg)
        · rw [id?, hnone] at hg
          cases hg

end Many

section Replay

variable {H : Type}

/-- The ids after subscriptions in a row: those of the entries, and else those of before. -/
theorem id?_applyAll_subscribes (es : List (Item × Subscription H))
    (hs : es.Pairwise (fun a b => compare a.1 b.1 = .lt)) (g : Gate) (i : Item) :
    (g.applyAll (es.map (fun e => .subscribe e.1 e.2.id))).id? i =
      ((SortedMap.findEntry i es).map (·.id)).or (g.id? i) := by
  induction es generalizing g with
  | nil => simp [SortedMap.findEntry]
  | cons e es ih =>
      have hs := List.pairwise_cons.mp hs
      rw [List.map_cons, applyAll_cons, ih hs.2]
      by_cases hc : compare i e.1 = .eq
      · have hi : i = e.1 := Std.LawfulEqCmp.eq_of_compare hc
        have hn : SortedMap.findEntry i es = none := by
          cases hf : SortedMap.findEntry i es with
          | none => rfl
          | some v =>
              have hlt := hs.1 _ (SortedMap.mem_of_findEntry hf)
              rw [hi] at hlt
              simp at hlt
        rw [hn, SortedMap.findEntry, if_pos hc, hi]
        simp
      · have hi : i ≠ e.1 := fun hi => hc (by simp [hi])
        simp [SortedMap.findEntry, hc, id?_apply_subscribe_of_ne _ hi]

/-- The replay leaves exactly the ids of the book, whatever the gate held. -/
theorem id?_applyAll_replay (b : Book H) (g : Gate) (i : Item) :
    (g.applyAll b.replay).id? i = b.id? i := by
  rw [Book.replay, applyAll_cons, id?_applyAll_subscribes _ b.subscriptions.ascending]
  simp [Book.id?, SortedMap.get?]

/-- The replay asks for every subscription of the book. -/
theorem subscribe_mem_replay {b : Book H} {i : Item} {s : Subscription H}
    (h : b.subscriptions.get? i = some s) : .subscribe i s.id ∈ b.replay :=
  List.mem_cons_of_mem _ (List.mem_map.mpr
    ⟨(i, s), b.subscriptions.mem_entries_iff.mpr h, rfl⟩)

end Replay

end Gate

end QuoteBridge
