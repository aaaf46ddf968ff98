import QuoteBridge.Proofs.Adapter.Run

/-!
# The consumer's calls

A call of the consumer is refused as a whole or done as a whole, whatever state the adapter is in.
One that is done concerns the item that the name stands for, in whatever spelling, and no other.

**Refusals.**  A subscription is refused for the name only; its end also where the item has no
subscription.  A refused call leaves everything as it was.

**Producer.**  While a producer run is known a call makes one request and asks for a dispatch round.
While none is known no request is made, and a new subscription gets its snapshot on the spot.

**Results.**
* `Adapter.subscribe_cases`, `Adapter.unsubscribe_cases`: the answers with what comes of the calls.
* `Adapter.calls_exact`: both calls fail just where they should and change no more than they should.
-/

namespace QuoteBridge
namespace Adapter

variable {β H : Type}

section Frames

/-- Two adapters differ in the subscription of one item, the next id, the waiting requests and the
rounds at most. -/
structure SameBut (i : Item) (a b : Adapter H) : Prop where
  others : ∀ j, j ≠ i → b.book.subscriptions.get? j = a.book.subscriptions.get? j
  liveness : b.book.liveness = a.book.liveness
  rest : b = { a with book := b.book, rounds := b.rounds }

/-- A request waits behind the others and a round is asked for, if a producer run is known. -/
structure Asks (r : Request) (a b : Adapter H) : Prop where
  pending : b.book.pending = a.book.pending ++ if a.epoch?.isSome then [r] else []
  rounds : b.rounds = a.rounds + if a.epoch?.isSome then 1 else 0

/-- The call that gives a new subscription its snapshot where there is no producer. -/
def openingCall (now : Nat) (i : Item) (id : SubscriptionId) (handle : H) : Delivery H :=
  ⟨now, i, id, .inactive, handle, inactiveSnapshot, true⟩

/-- An item is registered: the subscription has the next id, and the consumer is called just if no
producer run is known, once, with its snapshot. -/
structure Registers (i : Item) (id : SubscriptionId) (handle : H) (x y : Adapter H × Scene β H) :
    Prop where
  same : SameBut i x.1 y.1
  asks : Asks (.subscribe i id) x.1 y.1
  issued : id = x.1.book.nextId
  nextId : y.1.book.nextId = id + 1
  entry : y.1.book.subscriptions.get? i = some ⟨id, handle, x.1.epoch?.isNone⟩
  scene : y.2 = { x.2 with metrics := y.2.metrics, journal := y.2.journal }
  journal : y.2.journal = x.2.journal ++
    if x.1.epoch?.isSome then #[.subscribed i id]
    else #[.subscribed i id, .called (openingCall x.2.now i id handle)]

/-- The subscription of an item is taken out. -/
structure Withdraws (i : Item) (a b : Adapter H) : Prop where
  same : SameBut i a b
  asks : ∃ sub, a.book.subscriptions.get? i = some sub ∧ Asks (.unsubscribe i sub.id) a b
  nextId : b.book.nextId = a.book.nextId
  entry : b.book.subscriptions.get? i = none

end Frames

section Answers

/-- What a subscription answers, and what comes of it. -/
inductive SubscribeAnswer (name : String) (handle : H) (x : Adapter H × Scene β H) :
    Except SubscriptionError SubscriptionId × Adapter H × Scene β H → Prop
  | refused {e : ItemError} (hi : Item.parse name = .error e) :
      SubscribeAnswer name handle x (.error (.invalidItem e), x)
  | done {i : Item} {id : SubscriptionId} {y : Adapter H × Scene β H}
      (hi : Item.parse name = .ok i) (h : Registers i id handle x y) :
      SubscribeAnswer name handle x (.ok id, y)

/-- What the end of a subscription answers, and what comes of it. -/
inductive UnsubscribeAnswer (name : String) (a : Adapter H) :
    Except SubscriptionError Unit × Adapter H → Prop
  | refused (h : ∀ i, Item.parse name = .ok i → a.book.subscriptions.get? i = none) :
      UnsubscribeAnswer name a (.error (.notSubscribed name), a)
  | done {i : Item} {b : Adapter H} (hi : Item.parse name = .ok i) (h : Withdraws i a b) :
      UnsubscribeAnswer name a (.ok (), b)

variable (name : String) (handle : H) (a : Adapter H) (s : Scene β H)

/-- An item is registered while a producer run is known. -/
theorem registers_of_known (i : Item) {e : Epoch} (he : a.epoch? = some e) :
    Registers i a.book.nextId handle (a, s)
      ({ a with
          book := (a.book.insert i handle).2.2.push (.subscribe i a.book.nextId)
          rounds := a.rounds + 1 },
        s.note (.subscribed i a.book.nextId)) where
  same := ⟨fun j hj => SortedMap.get?_insert_of_ne _ hj _, rfl, rfl⟩
  asks := ⟨by simp [he, Book.push, Book.insert], by simp [he]⟩
  issued := rfl
  nextId := rfl
  entry := by simp [he, Book.push, Book.insert]
  scene := rfl
  journal := by simp [he, Scene.note]

/-- An item is registered while no producer run is known. -/
theorem registers_of_unknown (i : Item) (he : a.epoch? = none) (m : Metrics) :
    Registers i a.book.nextId handle (a, s)
      ({ a with book := (a.book.insert i handle).2.2.setSnapshotSent i true },
        { s with
          metrics := m
          journal := s.journal ++ #[.subscribed i a.book.nextId,
            .called (inactiveCall s.now i ⟨a.book.nextId, handle, false⟩)] }) where
  same := by
    refine ⟨fun j hj => ?_, rfl, rfl⟩
    exact (SortedMap.get?_modify_of_ne _ hj _).trans (SortedMap.get?_insert_of_ne _ hj _)
  asks := ⟨by simp [he, Book.setSnapshotSent, Book.insert], by simp [he]⟩
  issued := rfl
  nextId := rfl
  entry := by simp [he, Book.setSnapshotSent, Book.insert]
  scene := rfl
  journal := by simp [he, inactiveCall, openingCall]

theorem subscribe_cases : SubscribeAnswer name handle (a, s) (subscribe name handle a s) := by
  cases hi : Item.parse name with
  | error e =>
      rw [subscribe_of_refused hi]
      exact .refused hi
  | ok i =>
      cases he : a.epoch? with
      | some e =>
          rw [subscribe_of_known hi (by rw [he]; rfl)]
          exact .done hi (registers_of_known handle a s i he)
      | none =>
          obtain ⟨m, h⟩ := subscribe_of_unknown hi he handle s
          rw [h]
          exact .done hi (registers_of_unknown handle a s i he m)

/-- The subscription of an item is taken out, with a request if a producer run is known. -/
theorem withdraws_remove {i : Item} {sub : Subscription H}
    (hs : a.book.subscriptions.get? i = some sub) :
    Withdraws i a (if a.epoch?.isSome then
      { a with
        book := (a.book.remove i).2.push (.unsubscribe i sub.id)
        rounds := a.rounds + 1 }
      else { a with book := (a.book.remove i).2 }) := by
  by_cases he : a.epoch?.isSome = true
  · rw [if_pos he]
    refine ⟨⟨fun j hj => SortedMap.get?_erase_of_ne _ hj, rfl, rfl⟩, ⟨sub, hs, ?_⟩, rfl, ?_⟩
    · exact ⟨by simp [he, Book.push, Book.remove], by simp [he]⟩
    · simp [Book.push, Book.remove]
  · rw [if_neg he]
    refine ⟨⟨fun j hj => SortedMap.get?_erase_of_ne _ hj, rfl, rfl⟩, ⟨sub, hs, ?_⟩, rfl, ?_⟩
    · exact ⟨by simp [he, Book.remove], by simp [he]⟩
    · simp [Book.remove]

theorem unsubscribe_cases : UnsubscribeAnswer name a (unsubscribe name a) := by
  cases hi : Item.parse name with
  | error e =>
      rw [unsubscribe_of_error hi]
      exact .refused (fun i hok => by cases hi.symm.trans hok)
  | ok i =>
      cases hs : a.book.subscriptions.get? i with
      | none =>
          rw [unsubscribe_of_none hi hs]
          refine .refused (fun j hok => ?_)
          cases hi.symm.trans hok
          exact hs
      | some sub =>
          rw [unsubscribe_of_some hi hs]
          exact .done hi (withdraws_remove a hs)

/-- In every state a subscription fails just if the name stands for no item, and the end of one just
if the name stands for none with a subscription.  A call that fails changes nothing; one that is
done concerns its own item, and asks for itself by one request where a producer run is known. -/
theorem calls_exact :
    (∀ e, (subscribe name handle a s).1 = .error e ↔
      ∃ cause, Item.parse name = .error cause ∧ e = .invalidItem cause) ∧
    (∀ e, (unsubscribe name a).1 = .error e ↔
      e = .notSubscribed name ∧
        ∀ i, Item.parse name = .ok i → a.book.subscriptions.get? i = none) ∧
    ((∃ e, (subscribe name handle a s).1 = .error e) →
      (subscribe name handle a s).2 = (a, s)) ∧
    ((∃ e, (unsubscribe name a).1 = .error e) → (unsubscribe name a).2 = a) ∧
    (∀ id, (subscribe name handle a s).1 = .ok id →
      ∃ i, Item.parse name = .ok i ∧ Registers i id handle (a, s) (subscribe name handle a s).2) ∧
    ((unsubscribe name a).1 = .ok () →
      ∃ i, Item.parse name = .ok i ∧ Withdraws i a (unsubscribe name a).2) := by
  have hsubscribe := subscribe_cases name handle a s
  have hunsubscribe := unsubscribe_cases name a
  generalize subscribe name handle a s = r at hsubscribe ⊢
  generalize unsubscribe name a = r' at hunsubscribe ⊢
  refine ⟨fun e => ?_, fun e => ?_, ?_, ?_, ?_, ?_⟩
  · cases hsubscribe with
    | refused hi => simp [hi, eq_comm]
    | done hi h => simp [hi]
  · cases hunsubscribe with
    | refused h => simpa [eq_comm] using fun _ => h
    | done hi h =>
        obtain ⟨sub, hs, -⟩ := h.asks
        simp [hi, hs]
  · rintro ⟨e, he⟩
    cases hsubscribe with
    | refused hi => rfl
    | done hi h => cases he
  · rintro ⟨e, he⟩
    cases hunsubscribe with
    | refused h => rfl
    | done hi h => cases he
  · intro id hid
    cases hsubscribe with
    | refused hi => cases hid
    | done hi h =>
        cases hid
        exact ⟨_, hi, h⟩
  · intro hok
    cases hunsubscribe with
    | refused h => cases hok
    | done hi h => exact ⟨_, hi, h⟩

/-- The demonstration's subscription is ended by a third name of its item, and nothing is by the
name of no item. -/
theorem calls_exact_demo :
    (∃ i, Item.parse "item+7" = .ok i ∧
      Withdraws i (run Recorder.link demoActs demoStart).1
        (unsubscribe "item+7" (run Recorder.link demoActs demoStart).1).2) ∧
    (unsubscribe "item31" (run Recorder.link demoActs demoStart).1).2 =
      (run Recorder.link demoActs demoStart).1 := by
  have hdone : (unsubscribe "item+7" (run Recorder.link demoActs demoStart).1).1 = .ok () := by
    decide +kernel
  have hrefused : (unsubscribe "item31" (run Recorder.link demoActs demoStart).1).1 =
      .error (.notSubscribed "item31") := by
    decide +kernel
  obtain ⟨-, -, -, -, -, h⟩ :=
    calls_exact "item+7" "third" _ (run Recorder.link demoActs demoStart).2
  obtain ⟨-, -, -, h', -, -⟩ :=
    calls_exact "item31" "none" _ (run Recorder.link demoActs demoStart).2
  exact ⟨h hdone, h' ⟨_, hrefused⟩⟩

end Answers

end Adapter
end QuoteBridge
