import QuoteBridge.Scene

/-!
# The adapter's journal

What the journal tells of the calls that were made for a subscription.

**Results.**
* `concat_eq_append_cons`: the places at which a record with one more entry can be split.
* `LastCall.append`: the last call stays the last one as long as no other call is made.
-/

namespace QuoteBridge

theorem concat_eq_append_cons {α : Type} {ns before after : List α} {last n : α}
    (h : ns ++ [last] = before ++ n :: after) :
    (before = ns ∧ n = last ∧ after = []) ∨
      ∃ rest, after = rest ++ [last] ∧ ns = before ++ n :: rest := by
  rcases List.eq_nil_or_concat after with rfl | ⟨rest, m, rfl⟩
  · obtain ⟨hns, hlast⟩ := List.append_inj' h rfl
    exact Or.inl ⟨hns.symm, (List.singleton_inj.mp hlast).symm, rfl⟩
  · have hsplit : ns ++ [last] = (before ++ n :: rest) ++ [m] := by simpa using h
    obtain ⟨hns, hlast⟩ := List.append_inj' hsplit rfl
    cases List.singleton_inj.mp hlast
    exact Or.inr ⟨rest, by simp, hns⟩

variable {H : Type} {i : Item} {n : SubscriptionId}

/-- The last call for a subscription among some notes. -/
def LastCall (i : Item) (n : SubscriptionId) (c : Delivery H) (ns : List (Note H)) :
    Prop :=
  ∃ before after, ns = before ++ .called c :: after ∧ c.item = i ∧ c.id = n ∧
    ∀ c', .called c' ∈ after → ¬ (c'.item = i ∧ c'.id = n)

theorem LastCall.append {c : Delivery H} {ns ns' : List (Note H)} (h : LastCall i n c ns)
    (hns : ∀ c', .called c' ∈ ns' → ¬ (c'.item = i ∧ c'.id = n)) : LastCall i n c (ns ++ ns') := by
  obtain ⟨before, after, rfl, hi, hn, hafter⟩ := h
  refine ⟨before, after ++ ns', by simp, hi, hn, fun c' hc' => ?_⟩
  rcases List.mem_append.mp hc' with hc' | hc'
  · exact hafter c' hc'
  · exact hns c' hc'

end QuoteBridge
