import Mathlib.Data.List.Induction
import QuoteBridge.Proofs.Adapter.Journal
import QuoteBridge.Proofs.Gate.Replay

/-!
# The gate and its history

The gate keeps an id and a flag for each item.  Here both are read off the operations that led to
it: every answer of the gate is determined by what happened to the item since it was registered.

**Operations.**  A subscription registers its item.  It ends the item's registration of before, as
does a clearing, and as does a request to end it that carries the registered id.  Such a request
with any other id, and events that pass or do not pass, end nothing.

**Results.**
* `Gate.tenure?_perform_iff`: what one operation makes of the subscription of an item.
* `Gate.tenure?_replay_iff`: an item is registered since its latest effective operation, and has its
  snapshot just if a snapshot passed since then.
* `Gate.tenure?_replay_filter`: operations on other items may be left out.
* `Gate.answers_by_history`: what the gate answers after any operations.
-/

namespace QuoteBridge
namespace Gate

section Operations

/-- Something that is done at the gate. -/
inductive Op
  | subscribe (item : Item) (id : SubscriptionId)
  | unsubscribe (item : Item) (id : SubscriptionId)
  | clear
  | pass (item : Item) (isSnapshot : Bool)
  deriving DecidableEq

/-- What the gate answers. -/
inductive Answer
  | replaced (previous : Option SubscriptionId)
  | ended (removal : Removal)
  | cleared
  | decided (decision : GateDecision)
  deriving DecidableEq

/-- The item of an operation; a clearing has none. -/
def Op.item? : Op → Option Item
  | .subscribe i _ => some i
  | .unsubscribe i _ => some i
  | .clear => none
  | .pass i _ => some i

/-- Whether an operation is on an item or clears all of them. -/
def Op.touches (i : Item) (op : Op) : Bool := op.item?.all (· = i)

/-- Whether an operation ends the registration of an item under an id. -/
def Op.ends (i : Item) (n : SubscriptionId) : Op → Bool
  | .subscribe j _ => j = i
  | .unsubscribe j m => j = i && m = n
  | .clear => true
  | .pass _ _ => false

/-- Does an operation; gives the answer. -/
def perform (op : Op) (g : Gate) : Answer × Gate :=
  match op with
  | .subscribe i n => (.replaced (g.subscribe i n).1, (g.subscribe i n).2)
  | .unsubscribe i n => (.ended (g.unsubscribe i n).1, (g.unsubscribe i n).2)
  | .clear => (.cleared, empty)
  | .pass i isSnapshot => (.decided (g.pass i isSnapshot).1, (g.pass i isSnapshot).2)

/-- The gate after operations in a row, from the empty one on. -/
def replay (ops : List Op) : Gate := ops.foldl (fun g op => (g.perform op).2) empty

@[simp] theorem replay_concat (ops : List Op) (op : Op) :
    replay (ops ++ [op]) = ((replay ops).perform op).2 := by
  simp [replay]

/-- The item is registered under the id, and `since` is what was done after its registration. -/
def RegisteredSince (i : Item) (n : SubscriptionId) (ops since : List Op) : Prop :=
  ∃ before, ops = before ++ .subscribe i n :: since ∧ ∀ op ∈ since, op.ends i n = false

/-- The latest effective operation of the item is its subscription under the id. -/
def Registered (i : Item) (n : SubscriptionId) (ops : List Op) : Prop :=
  ∃ since, RegisteredSince i n ops since

end Operations

section Registrations

variable {i : Item} {n : SubscriptionId} {ops since : List Op} {op : Op}

theorem registeredSince_concat :
    RegisteredSince i n (ops ++ [op]) since ↔
      (op = .subscribe i n ∧ since = []) ∨
        ∃ earlier, since = earlier ++ [op] ∧ RegisteredSince i n ops earlier ∧
          op.ends i n = false := by
  constructor
  · rintro ⟨before, hsplit, hsince⟩
    rcases concat_eq_append_cons hsplit with ⟨-, hop, hnil⟩ | ⟨earlier, rfl, hops⟩
    · exact Or.inl ⟨hop.symm, hnil⟩
    · refine Or.inr ⟨earlier, rfl, ⟨before, hops, fun op' hm => ?_⟩, hsince op (by simp)⟩
      exact hsince op' (List.mem_append_left _ hm)
  · rintro (⟨rfl, rfl⟩ | ⟨earlier, rfl, ⟨before, rfl, hearlier⟩, hop⟩)
    · exact ⟨ops, rfl, by simp⟩
    · refine ⟨before, by simp, fun op' hm => ?_⟩
      rcases List.mem_append.mp hm with hm | hm
      · exact hearlier op' hm
      · rw [List.mem_singleton.mp hm]
        exact hop

end Registrations

section Steps

variable {i : Item} {n : SubscriptionId} {g : Gate}

/-- An event that passes as a snapshot leaves the subscription with its snapshot. -/
theorem tenure?_pass_self (i : Item) (isSnapshot : Bool) (g : Gate) :
    (g.pass i isSnapshot).2.tenure? i =
      (g.tenure? i).map (fun t => { t with snapshotSent := t.snapshotSent || isSnapshot }) := by
  unfold pass
  cases ht : g.tenure? i with
  | none => simp [ht]
  | some t =>
      obtain ⟨id, sent⟩ := t
      cases sent with
      | true => simp [ht]
      | false =>
          cases isSnapshot with
          | true => simp [tenure?]
          | false => simp [ht]

/-- Operations on other items leave an item alone. -/
theorem tenure?_perform_of_not_touches {op : Op} (h : op.touches i = false) (g : Gate) :
    (g.perform op).2.tenure? i = g.tenure? i := by
  cases op with
  | clear => cases h
  | subscribe j m =>
      have hj : i ≠ j := by simpa [Op.touches, Op.item?, eq_comm] using h
      exact g.tenure?_subscribe_of_ne m hj
  | unsubscribe j m =>
      have hj : i ≠ j := by simpa [Op.touches, Op.item?, eq_comm] using h
      exact g.tenure?_apply_unsubscribe_of_ne hj m
  | pass j isSnapshot =>
      have hj : i ≠ j := by simpa [Op.touches, Op.item?, eq_comm] using h
      exact g.tenure?_pass_of_ne hj isSnapshot

theorem touches_of_ends {op : Op} (h : op.ends i n = true) : op.touches i = true := by
  cases op <;> simp_all [Op.ends, Op.touches, Op.item?]

/-- After an operation an item is registered by that operation, or it was registered before and
the operation does not end that. -/
theorem tenure?_perform_iff (op : Op) (sent : Bool) :
    (g.perform op).2.tenure? i = some ⟨n, sent⟩ ↔
      (op = .subscribe i n ∧ sent = false) ∨
        op.ends i n = false ∧
          ∃ earlier, g.tenure? i = some ⟨n, earlier⟩ ∧
            (sent = true ↔ earlier = true ∨ op = .pass i true) := by
  cases ht : op.touches i with
  | false =>
      have hends : op.ends i n = false :=
        Bool.eq_false_iff.mpr (fun h => by simp [touches_of_ends h] at ht)
      have hsubscribe : op ≠ .subscribe i n := by rintro rfl; simp [Op.touches, Op.item?] at ht
      have hpass : op ≠ .pass i true := by rintro rfl; simp [Op.touches, Op.item?] at ht
      simp [tenure?_perform_of_not_touches ht, hends, hsubscribe, hpass]
  | true =>
      cases op with
      | clear => simp [perform, Op.ends]
      | subscribe j m =>
          obtain rfl : j = i := by simpa [Op.touches, Op.item?] using ht
          simp [perform, Op.ends, eq_comm]
      | unsubscribe j m =>
          obtain rfl : j = i := by simpa [Op.touches, Op.item?] using ht
          have hself : (g.perform (.unsubscribe j m)).2.tenure? j =
              (g.tenure? j).filter (fun t => t.id ≠ m) := g.tenure?_apply_unsubscribe_self j m
          rw [hself]
          cases g.tenure? j with
          | none => simp
          | some t => grind [Op.ends]
      | pass j isSnapshot =>
          obtain rfl : j = i := by simpa [Op.touches, Op.item?] using ht
          have hself : (g.perform (.pass j isSnapshot)).2.tenure? j = _ :=
            tenure?_pass_self j isSnapshot g
          rw [hself]
          cases g.tenure? j with
          | none => simp
          | some t =>
              obtain ⟨m, earlier⟩ := t
              cases isSnapshot with
              | true => simp [Op.ends, eq_comm]
              | false => cases sent <;> simp [Op.ends]

/-- What an operation makes of an item depends on that item alone. -/
theorem tenure?_perform_congr {g g' : Gate} (h : g.tenure? i = g'.tenure? i) (op : Op) :
    (g.perform op).2.tenure? i = (g'.perform op).2.tenure? i := by
  refine Option.ext (fun t => ?_)
  obtain ⟨n, sent⟩ := t
  rw [tenure?_perform_iff, tenure?_perform_iff, h]

/-- So does the answer to an operation on the item. -/
theorem answer_perform_congr {g g' : Gate} (h : g.tenure? i = g'.tenure? i) {op : Op}
    (hop : op.item? = some i) : (g.perform op).1 = (g'.perform op).1 := by
  cases op with
  | clear => cases hop
  | subscribe j m =>
      cases hop
      simp [perform, subscribe, h]
  | unsubscribe j m =>
      cases hop
      simp only [perform, unsubscribe, h]
      cases g'.tenure? i with
      | none => rfl
      | some t => by_cases hm : t.id = m <;> simp [hm]
  | pass j isSnapshot =>
      cases hop
      simp only [perform, pass, h]
      cases g'.tenure? i with
      | none => rfl
      | some t => cases ht : t.snapshotSent <;> cases isSnapshot <;> simp [ht]

end Steps

section Answers

variable {i : Item} {n m : SubscriptionId} {g : Gate}

theorem unsubscribe_eq_removed_iff : (g.unsubscribe i n).1 = .removed ↔ g.id? i = some n := by
  unfold unsubscribe id?
  cases g.tenure? i with
  | none => simp
  | some t => by_cases hn : t.id = n <;> simp [hn]

theorem unsubscribe_eq_mismatch_iff :
    (g.unsubscribe i n).1 = .mismatch m ↔ m ≠ n ∧ g.id? i = some m := by
  unfold unsubscribe id?
  cases g.tenure? i with
  | none => simp
  | some t =>
      by_cases hn : t.id = n
      · simp [hn, eq_comm]
      · simp only [hn, if_false, Option.map_some, Removal.mismatch.injEq, Option.some.injEq]
        exact ⟨fun hm => ⟨hm ▸ hn, hm⟩, fun hm => hm.2⟩

theorem unsubscribe_eq_notSubscribed_iff :
    (g.unsubscribe i n).1 = .notSubscribed ↔ g.id? i = none := by
  unfold unsubscribe id?
  cases g.tenure? i with
  | none => simp
  | some t => by_cases hn : t.id = n <;> simp [hn]

theorem pass_eq_drop_iff {isSnapshot : Bool} :
    (g.pass i isSnapshot).1 = .drop ↔
      g.id? i = none ∨ isSnapshot = false ∧ ∃ n, g.tenure? i = some ⟨n, false⟩ := by
  unfold pass id?
  cases g.tenure? i with
  | none => simp
  | some t =>
      obtain ⟨id, sent⟩ := t
      cases sent <;> cases isSnapshot <;> simp

theorem pass_eq_publish_iff {isSnapshot passedAs : Bool} :
    (g.pass i isSnapshot).1 = .publish n passedAs ↔
      ∃ sent, g.tenure? i = some ⟨n, sent⟩ ∧ (isSnapshot = true ∨ sent = true) ∧
        (passedAs = true ↔ isSnapshot = true ∧ sent = false) := by
  unfold pass
  cases g.tenure? i with
  | none => simp
  | some t =>
      obtain ⟨id, sent⟩ := t
      cases sent <;> cases isSnapshot <;> simp [eq_comm]

end Answers

section Histories

variable {i : Item} {n : SubscriptionId} {ops : List Op}

/-- An item is registered since its latest effective operation, and has its snapshot just if a
snapshot passed since then. -/
theorem tenure?_replay_iff (sent : Bool) :
    (replay ops).tenure? i = some ⟨n, sent⟩ ↔
      ∃ since, RegisteredSince i n ops since ∧ (sent = true ↔ .pass i true ∈ since) := by
  induction ops using List.reverseRecOn generalizing sent with
  | nil => simp [replay, RegisteredSince]
  | append_singleton ops op ih =>
      rw [replay_concat, tenure?_perform_iff]
      simp only [ih, registeredSince_concat]
      constructor
      · rintro (⟨rfl, rfl⟩ | ⟨hends, earlier, ⟨since, hreg, hpassed⟩, hsent⟩)
        · exact ⟨[], Or.inl ⟨rfl, rfl⟩, by simp⟩
        · refine ⟨since ++ [op], Or.inr ⟨since, rfl, hreg, hends⟩, ?_⟩
          simp [hsent, hpassed, eq_comm]
      · rintro ⟨since, ⟨rfl, rfl⟩ | ⟨earlier, rfl, hreg, hends⟩, hsent⟩
        · exact Or.inl ⟨rfl, by simpa using hsent⟩
        · refine Or.inr ⟨hends, decide (.pass i true ∈ earlier), ⟨earlier, hreg, by simp⟩, ?_⟩
          simp [hsent, eq_comm]

theorem id?_replay_iff : (replay ops).id? i = some n ↔ Registered i n ops := by
  constructor
  · intro h
    obtain ⟨⟨m, sent⟩, ht, rfl⟩ := Option.map_eq_some_iff.mp h
    obtain ⟨since, hreg, -⟩ := (tenure?_replay_iff sent).mp ht
    exact ⟨since, hreg⟩
  · rintro ⟨since, hreg⟩
    have ht := (tenure?_replay_iff (decide (.pass i true ∈ since))).mpr ⟨since, hreg, by simp⟩
    rw [id?, ht, Option.map_some]

/-- Operations on other items may be left out. -/
theorem tenure?_replay_filter (i : Item) (ops : List Op) :
    (replay (ops.filter (Op.touches i))).tenure? i = (replay ops).tenure? i := by
  induction ops using List.reverseRecOn with
  | nil => rfl
  | append_singleton ops op ih =>
      rw [replay_concat, List.filter_append]
      cases ht : op.touches i with
      | false => simpa [ht, tenure?_perform_of_not_touches ht] using ih
      | true => simpa [ht] using tenure?_perform_congr ih op

/-- What the gate has of an item, and what it answers about it, read off the operations that were
done from the empty gate on.  A registration is ended by its own id, and any other id is told of and
changes nothing.  Events pass once a snapshot passed since the registration.  Operations on other
items could as well not have been done. -/
theorem answers_by_history (ops : List Op) (i : Item) :
    (∀ n, (replay ops).id? i = some n ↔ Registered i n ops) ∧
    (∀ n, ((replay ops).perform (.unsubscribe i n)).1 = .ended .removed ↔ Registered i n ops) ∧
    (∀ n m, ((replay ops).perform (.unsubscribe i n)).1 = .ended (.mismatch m) ↔
      m ≠ n ∧ Registered i m ops) ∧
    (∀ n, ((replay ops).perform (.unsubscribe i n)).1 = .ended .notSubscribed ↔
      ∀ m, ¬ Registered i m ops) ∧
    (∀ n, Registered i n ops ∨
      ((replay ops).perform (.unsubscribe i n)).2 = replay ops) ∧
    (∀ isSnapshot, ((replay ops).perform (.pass i isSnapshot)).1 = .decided .drop ↔
      (∀ n, ¬ Registered i n ops) ∨ isSnapshot = false ∧
        ∃ n since, RegisteredSince i n ops since ∧ .pass i true ∉ since) ∧
    (∀ isSnapshot n passedAs,
      ((replay ops).perform (.pass i isSnapshot)).1 = .decided (.publish n passedAs) ↔
        ∃ since, RegisteredSince i n ops since ∧ (isSnapshot = true ∨ .pass i true ∈ since) ∧
          (passedAs = true ↔ isSnapshot = true ∧ .pass i true ∉ since)) ∧
    (∀ op, op.item? = some i →
      ((replay ops).perform op).1 = ((replay (ops.filter (Op.touches i))).perform op).1) := by
  have hnone : (replay ops).id? i = none ↔ ∀ n, ¬ Registered i n ops := by
    rw [Option.eq_none_iff_forall_ne_some]
    simp only [ne_eq, id?_replay_iff]
  refine ⟨fun n => id?_replay_iff, fun n => ?_, fun n m => ?_, fun n => ?_, fun n => ?_,
    fun isSnapshot => ?_, fun isSnapshot n passedAs => ?_, fun op hop => ?_⟩
  · simp only [perform, Answer.ended.injEq, unsubscribe_eq_removed_iff, id?_replay_iff]
  · simp only [perform, Answer.ended.injEq, unsubscribe_eq_mismatch_iff, id?_replay_iff]
  · simp only [perform, Answer.ended.injEq, unsubscribe_eq_notSubscribed_iff, hnone]
  · by_cases hn : ((replay ops).unsubscribe i n).1 = .removed
    · exact Or.inl (id?_replay_iff.mp (unsubscribe_eq_removed_iff.mp hn))
    · exact Or.inr (unsubscribe_of_ne_removed _ hn)
  · simp only [perform, Answer.decided.injEq, pass_eq_drop_iff, hnone, tenure?_replay_iff]
    simp
  · simp only [perform, Answer.decided.injEq, pass_eq_publish_iff, tenure?_replay_iff]
    constructor
    · rintro ⟨sent, ⟨since, hreg, hsent⟩, hpassed, has⟩
      refine ⟨since, hreg, by rwa [← hsent], ?_⟩
      rw [has, ← hsent, Bool.not_eq_true]
    · rintro ⟨since, hreg, hpassed, has⟩
      refine ⟨decide (.pass i true ∈ since), ⟨since, hreg, by simp⟩, by simpa using hpassed, ?_⟩
      simpa using has
  · exact answer_perform_congr (tenure?_replay_filter i ops).symm hop

end Histories

section Demonstration

def demoItem : Item := ⟨⟨10, by decide⟩⟩

/-- An item gets its snapshot and is registered anew, and its older registration is ended late. -/
def demoOps : List Op :=
  [.subscribe demoItem 1, .pass demoItem true, .subscribe ⟨⟨11, by decide⟩⟩ 9,
    .subscribe demoItem 2, .unsubscribe demoItem 1]

/-- The item waits for its snapshot again, and the older id is still refused. -/
theorem answers_by_history_demo :
    Registered demoItem 2 demoOps ∧
      ((replay demoOps).perform (.unsubscribe demoItem 1)).1 = .ended (.mismatch 2) ∧
      ((replay demoOps).perform (.pass demoItem false)).1 = .decided .drop ∧
      (Op.pass demoItem true).item? = some demoItem ∧
      ((replay (demoOps.filter (Op.touches demoItem))).perform (.pass demoItem true)).1 =
        .decided (.publish 2 true) := by
  have hsince : RegisteredSince demoItem 2 demoOps [.unsubscribe demoItem 1] :=
    ⟨demoOps.take 3, by decide, by decide⟩
  obtain ⟨-, -, hmismatch, -, -, hdrop, hpublish, hothers⟩ := answers_by_history demoOps demoItem
  refine ⟨⟨_, hsince⟩, (hmismatch 1 2).mpr ⟨by decide, _, hsince⟩, ?_, rfl, ?_⟩
  · exact (hdrop false).mpr (Or.inr ⟨rfl, 2, _, hsince, by decide⟩)
  · rw [← hothers (.pass demoItem true) rfl]
    exact (hpublish true 2 true).mpr ⟨_, hsince, Or.inl rfl, by decide⟩

end Demonstration

end Gate
end QuoteBridge
