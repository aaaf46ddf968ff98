import QuoteBridge.Proofs.Gate.History
import QuoteBridge.Proofs.SortedMap.Entries

/-!
# The order of requests

Requests that reach the gate in another order may leave it with another registry.  Whether they do
can be read off the two orders: for each item, the subscriptions that nothing behind them ends have
to be the same in both.

**Results.**
* `Gate.tenure?_applyAll_iff`: after requests in a row an item has its subscription from the last
  effective one of them, or from before.
* `Gate.applyAll_eq_iff`: when two orders of the same requests leave every gate with the same
  registry.
* `Gate.applyAll_eq_of_filter_eq`: they do if the order of no item's requests changes.
-/

namespace QuoteBridge

namespace Gate

variable {i : Item} {n : SubscriptionId}

section Requests

/-- A request as an operation at the gate. -/
def Op.ofRequest : Request → Op
  | .reset => .clear
  | .subscribe i n => .subscribe i n
  | .unsubscribe i n => .unsubscribe i n

theorem apply_eq_perform (r : Request) (g : Gate) : g.apply r = (g.perform (.ofRequest r)).2 := by
  cases r <;> rfl

theorem registered_concat {ops : List Op} {op : Op} :
    Registered i n (ops ++ [op]) ↔
      op = .subscribe i n ∨ Registered i n ops ∧ op.ends i n = false := by
  constructor
  · rintro ⟨since, hsince⟩
    rcases registeredSince_concat.mp hsince with ⟨hop, -⟩ | ⟨earlier, -, hreg, hends⟩
    · exact Or.inl hop
    · exact Or.inr ⟨⟨earlier, hreg⟩, hends⟩
  · rintro (hop | ⟨⟨earlier, hreg⟩, hends⟩)
    · exact ⟨[], registeredSince_concat.mpr (Or.inl ⟨hop, rfl⟩)⟩
    · exact ⟨earlier ++ [op], registeredSince_concat.mpr (Or.inr ⟨earlier, rfl, hreg, hends⟩)⟩

/-- Operations on other items register nothing and end nothing. -/
theorem registered_filter_iff {ops : List Op} :
    Registered i n (ops.filter (Op.touches i)) ↔ Registered i n ops := by
  rw [← id?_replay_iff, ← id?_replay_iff, id?, id?, tenure?_replay_filter]

/-- One request registers an item, or leaves its subscription, or ends it. -/
theorem tenure?_apply_iff {g : Gate} {r : Request} {sent : Bool} :
    (g.apply r).tenure? i = some ⟨n, sent⟩ ↔
      (Op.ofRequest r = .subscribe i n ∧ sent = false) ∨
        g.tenure? i = some ⟨n, sent⟩ ∧ (Op.ofRequest r).ends i n = false := by
  have hpass : Op.ofRequest r ≠ .pass i true := by cases r <;> simp [Op.ofRequest]
  rw [apply_eq_perform, tenure?_perform_iff]
  constructor
  · rintro (hop | ⟨hends, earlier, hg, hsent⟩)
    · exact Or.inl hop
    · have hsame : sent = earlier := Bool.eq_iff_iff.mpr (by simpa [hpass] using hsent)
      exact Or.inr ⟨hsame ▸ hg, hends⟩
  · rintro (hop | ⟨hg, hends⟩)
    · exact Or.inl hop
    · exact Or.inr ⟨hends, sent, hg, by simp [hpass]⟩

/-- After requests in a row an item has its subscription from the last effective one of them, or
from before. -/
theorem tenure?_applyAll_iff {g : Gate} {rs : List Request} {sent : Bool} :
    (g.applyAll rs).tenure? i = some ⟨n, sent⟩ ↔
      (Registered i n (rs.map .ofRequest) ∧ sent = false) ∨
        g.tenure? i = some ⟨n, sent⟩ ∧ ∀ r ∈ rs, (Op.ofRequest r).ends i n = false := by
  induction rs using List.reverseRecOn with
  | nil => simp [Registered, RegisteredSince]
  | append_singleton rs r ih =>
      rw [applyAll_append, applyAll_cons, applyAll_nil, tenure?_apply_iff, ih, List.map_append,
        List.map_singleton, registered_concat]
      simp only [List.forall_mem_append, List.forall_mem_singleton]
      tauto

end Requests

section Orders

variable {rs rs' : List Request}

/-- Two orders of the same requests leave every gate with the same registry just if the same
subscriptions are in force at their ends. -/
theorem applyAll_eq_iff (h : ∀ r, r ∈ rs ↔ r ∈ rs') :
    (∀ g : Gate, g.applyAll rs = g.applyAll rs') ↔
      ∀ i n, Registered i n (rs.map .ofRequest) ↔ Registered i n (rs'.map .ofRequest) := by
  constructor
  · intro hsame i n
    have hlast (rs : List Request) : (empty.applyAll rs).tenure? i = some ⟨n, false⟩ ↔
        Registered i n (rs.map .ofRequest) := by
      simp [tenure?_applyAll_iff]
    rw [← hlast, ← hlast, hsame]
  · intro hreg g
    have htenure : ∀ i, (g.applyAll rs).tenure? i = (g.applyAll rs').tenure? i := by
      refine fun i => Option.ext (fun t => ?_)
      obtain ⟨n, sent⟩ := t
      rw [tenure?_applyAll_iff, tenure?_applyAll_iff, hreg]
      simp only [h]
    exact congrArg Gate.mk (SortedMap.ext_get? htenure)

/-- The order of requests on different items does not matter. -/
theorem applyAll_eq_of_filter_eq (h : ∀ r, r ∈ rs ↔ r ∈ rs')
    (horder : ∀ i, (rs.map Op.ofRequest).filter (Op.touches i) =
      (rs'.map Op.ofRequest).filter (Op.touches i)) (g : Gate) :
    g.applyAll rs = g.applyAll rs' := by
  refine (applyAll_eq_iff h).mpr (fun i n => ?_) g
  rw [← registered_filter_iff, horder, registered_filter_iff]

end Orders

end Gate
end QuoteBridge
