import QuoteBridge.Adapter

/-!
# Effects of the adapter

What each piece of the adapter's work leaves behind: the parts of the adapter that it changes, and
the notes that it adds to the journal.  Counters are left open.

**Results.**
* `degrade_effect`: a degraded adapter knows no producer run, and only calls are noted.
* `receive_effect`: a payload is ignored, brings a new run, or belongs to the known run.
* `subscribe_effect`, `unsubscribe_effect`: what the consumer's calls do.
-/

namespace QuoteBridge
namespace Adapter

variable {β H : Type}

/-- An adapter that was only just made. -/
theorem eq_of_create {c : AdapterConfig} {a : Adapter H} (h : create c = .ok a) :
    ∃ o, a = ⟨c, .initial, o, 0, [], [], 0, false⟩ := by
  unfold create at h
  cases ho : Outbox.create c.poolBatch with
  | error e => simp [ho, bind, Except.bind] at h
  | ok o =>
      simp only [ho, bind, Except.bind, pure, Except.pure, Except.ok.injEq] at h
      exact ⟨o, h.symm⟩

/-- The notes are calls of the consumer. -/
def AllCalls (notes : Array (Note H)) : Prop := ∀ n ∈ notes, ∃ c, n = .called c

theorem AllCalls.append {ns ns' : Array (Note H)} (h : AllCalls ns) (h' : AllCalls ns') :
    AllCalls (ns ++ ns') := by
  intro n hn
  rcases Array.mem_append.mp hn with hn | hn
  · exact h n hn
  · exact h' n hn

section Inactive

/-- Whoever is told that there is no producer gets a call, and nothing else changes but which
snapshots were given out. -/
theorem deliverInactive_effect (i : Item) (a : Adapter H) (s : Scene β H) :
    ∃ subs m notes, AllCalls notes ∧
      deliverInactive i a s =
        ({ a with book := { a.book with subscriptions := subs } },
          { s with metrics := m, journal := s.journal ++ notes }) := by
  unfold deliverInactive
  split
  · exact ⟨a.book.subscriptions, s.metrics, #[], by simp [AllCalls], by simp⟩
  · rename_i sub _
    refine ⟨_, _, #[.called ⟨s.now, i, sub.id, .inactive, sub.handle,
      if sub.snapshotSent then inactiveDelta else inactiveSnapshot, !sub.snapshotSent⟩], ?_, rfl⟩
    intro n hn
    exact ⟨_, List.mem_singleton.mp (Array.mem_toList_iff.mpr hn)⟩

theorem deliverInactiveAll_effect (is : List Item) (a : Adapter H) (s : Scene β H) :
    ∃ subs m notes, AllCalls notes ∧
      deliverInactiveAll is a s =
        ({ a with book := { a.book with subscriptions := subs } },
          { s with metrics := m, journal := s.journal ++ notes }) := by
  induction is generalizing a s with
  | nil =>
      exact ⟨a.book.subscriptions, s.metrics, #[], by simp [AllCalls], by
        simp [deliverInactiveAll]⟩
  | cons i is ih =>
      obtain ⟨subs, m, notes, hc, h⟩ := deliverInactive_effect i a s
      obtain ⟨subs', m', notes', hc', h'⟩ := ih
        { a with book := { a.book with subscriptions := subs } }
        { s with metrics := m, journal := s.journal ++ notes }
      refine ⟨subs', m', notes ++ notes', hc.append hc', ?_⟩
      rw [deliverInactiveAll, h, h', Array.append_assoc]

/-- A degraded adapter knows no producer run, and only calls are noted. -/
theorem degrade_effect (cause : DownCause) (a : Adapter H) (s : Scene β H) :
    ∃ subs m notes, AllCalls notes ∧
      degrade cause a s =
        ({ a with book :=
            { a.book with subscriptions := subs, liveness := a.book.liveness.clearEpoch } },
          { s with metrics := m, journal := s.journal ++ notes }) :=
  deliverInactiveAll_effect a.book.subscriptions.keys
    { a with book := a.book.mapLiveness .clearEpoch } (s.count (.feedDown cause))

/-- A lost session costs the producer run and starts a supervisor. -/
theorem transportError_effect (a : Adapter H) (s : Scene β H) :
    ∃ subs m notes, AllCalls notes ∧
      transportError a s =
        ({ a with
            book := { a.book with
              subscriptions := subs
              liveness := a.book.liveness.clearEpoch.setConnected false }
            newest := a.newest + 1
            supervisors :=
              a.supervisors ++ [.create (a.newest + 1) a.config.recoveryPause] },
          { s with metrics := m, journal := s.journal ++ notes }) := by
  obtain ⟨subs, m, notes, hc, h⟩ := degrade_effect .bus a s
  refine ⟨subs, m, notes, hc, ?_⟩
  rw [transportError, h]
  rfl

/-- What a look of a watchdog does to the adapter. -/
inductive Looks (w : Watchdog) (a : Adapter H) (s : Scene β H) :
    Option Watchdog × Adapter H × Scene β H → Prop
  | silent (he : a.epoch? = some w.epoch) (hl : a.book.liveness.busConnected = true)
      (hc : a.book.liveness.stallCounter = w.lastSeen) :
      Looks w a s (none, degrade .producer a s)
  | moved (he : a.epoch? = some w.epoch) (hl : a.book.liveness.busConnected = true)
      (hc : a.book.liveness.stallCounter ≠ w.lastSeen) :
      Looks w a s
        (some ⟨w.epoch, a.book.liveness.stallCounter,
          Timer.due s.now a.config.watchdogInterval⟩, a, s)
  /-- The watchdog's run is not the known one, or the session is lost. -/
  | retired (h : ¬ (a.epoch? = some w.epoch ∧ a.book.liveness.busConnected = true)) :
      Looks w a s (none, a, s)

theorem look_effect (w : Watchdog) (a : Adapter H) (s : Scene β H) : Looks w a s (look w a s) := by
  unfold look
  split
  · rename_i hknown
    split
    · rename_i hc
      exact .silent hknown.1 hknown.2 hc
    · rename_i hc
      exact .moved hknown.1 hknown.2 hc
  · rename_i hunknown
    exact .retired hunknown

/-- The watchdog that looks is one that is due, and the others stay. -/
theorem watchFrom_cases {a : Adapter H} {s : Scene β H} {r : Adapter H × Scene β H}
    {ws done : List Watchdog} (h : watchFrom a s done ws = some r) :
    ∃ pre w post, ws = pre ++ w :: post ∧ w.wake ≤ s.now ∧
      r = ({ (look w a s).2.1 with
        watchdogs := done ++ pre ++ (look w a s).1.toList ++ post }, (look w a s).2.2) := by
  induction ws generalizing done with
  | nil => cases h
  | cons w ws ih =>
      by_cases hw : w.wake ≤ s.now
      · simp only [watchFrom, hw, if_true, Option.some.injEq] at h
        exact ⟨[], w, ws, rfl, hw, by rw [← h, List.append_nil]⟩
      · simp only [watchFrom, hw, if_false] at h
        obtain ⟨pre, v, post, rfl, hv, rfl⟩ := ih h
        refine ⟨w :: pre, v, post, rfl, hv, ?_⟩
        rw [List.append_assoc done [w] pre]
        rfl

/-- A watchdog that is due leaves the adapter as it is, or degrades it. -/
theorem watchFrom_effect {a : Adapter H} {s : Scene β H} {r : Adapter H × Scene β H}
    {ws done : List Watchdog} (h : watchFrom a s done ws = some r) :
    (∃ ws', r = ({ a with watchdogs := ws' }, s)) ∨
      ∃ ws', r = ({ (degrade .producer a s).1 with watchdogs := ws' },
        (degrade .producer a s).2) := by
  obtain ⟨pre, w, post, -, -, rfl⟩ := watchFrom_cases h
  generalize hl : look w a s = l
  cases hl ▸ look_effect w a s with
  | silent he hl hc => exact Or.inr ⟨_, rfl⟩
  | moved he hl hc => exact Or.inl ⟨_, rfl⟩
  | retired hr => exact Or.inl ⟨_, rfl⟩

end Inactive

section Receiving

/-- The book once a message of a new run was heard. -/
def renewed (e : Epoch) (b : Book H) : Book H := (b.observe e).2.resubscribeAll

/-- The book once a message of the known run was heard. -/
def counted (e : Epoch) (b : Book H) : Book H := (b.observe e).2

theorem epoch_renewed (e : Epoch) (b : Book H) : (renewed e b).liveness.epoch = some e := by
  by_cases he : b.liveness.epoch = some e <;>
    simp [renewed, Book.observe, Book.resubscribeAll, Liveness.observe, he]

theorem liveness_renewed {a : Adapter H} {e : Epoch} (h : a.epoch? ≠ some e) :
    (renewed e a.book).liveness = ⟨true, some e, 0⟩ := by
  have hnew : a.book.liveness.epoch ≠ some e := h
  simp [renewed, Book.observe, Book.resubscribeAll, Liveness.observe, hnew]

theorem epoch_counted (e : Epoch) (b : Book H) : (counted e b).liveness.epoch = some e := by
  by_cases he : b.liveness.epoch = some e <;> simp [counted, Book.observe, Liveness.observe, he]

/-- What a payload does to the adapter. -/
inductive Hears (p : Payload) (a : Adapter H) (s : Scene β H) : Adapter H × Scene β H → Prop
  /-- The payload is no message. -/
  | ignored (m : Metrics) (h : Message.decode p = none) : Hears p a s (a, { s with metrics := m })
  /-- The message brings a new run. -/
  | anew (msg : Message) (m : Metrics) (h : Message.decode p = some msg)
      (he : a.epoch? ≠ some msg.epoch) :
      Hears p a s
        ({ a with
            book := renewed msg.epoch a.book
            watchdogs := a.watchdogs ++
              [⟨msg.epoch, 0, Timer.due s.now a.config.watchdogInterval⟩]
            rounds := a.rounds + 1 },
          { s with metrics := m, journal := s.journal.push (.heard s.now msg.epoch true) })
  /-- The message is of the known run and has no update for a subscription. -/
  | known (msg : Message) (m : Metrics) (h : Message.decode p = some msg)
      (he : a.epoch? = some msg.epoch)
      (hu : ∀ u sub, msg = .update u → a.book.subscriptions.get? u.item = some sub →
        sub.id ≠ u.subscriptionId) :
      Hears p a s
        ({ a with book := counted msg.epoch a.book },
          { s with metrics := m, journal := s.journal.push (.heard s.now msg.epoch false) })
  /-- The message is an update of the known run for a subscription. -/
  | delivered (u : Update) (sub : Subscription H) (m : Metrics)
      (h : Message.decode p = some (.update u)) (he : a.epoch? = some u.epoch)
      (hs : a.book.subscriptions.get? u.item = some sub) (hid : sub.id = u.subscriptionId) :
      Hears p a s
        ({ a with book := (counted u.epoch a.book).setSnapshotSent u.item true },
          { s with
            metrics := m
            journal := (s.journal.push (.heard s.now u.epoch false)).push
              (.called ⟨s.now, u.item, sub.id, if sub.snapshotSent then .delta else .snapshot,
                sub.handle, u.fields, !sub.snapshotSent⟩) })

theorem observe_of_known {e : Epoch} {a : Adapter H} (he : a.epoch? = some e) (s : Scene β H) :
    observe e a s =
      (.current, { a with book := counted e a.book }, s.note (.heard s.now e false)) := by
  have hl : a.book.liveness.epoch = some e := he
  simp [observe, Book.observe, Liveness.observe, hl, counted]

theorem observe_of_new {e : Epoch} {a : Adapter H} (he : a.epoch? ≠ some e) (s : Scene β H) :
    observe e a s =
      (.new a.epoch?,
        { a with
          book := renewed e a.book
          watchdogs := a.watchdogs ++ [⟨e, 0, Timer.due s.now a.config.watchdogInterval⟩]
          rounds := a.rounds + 1 },
        (s.count .epochChanges).note (.heard s.now e true)) := by
  have hl : a.book.liveness.epoch ≠ some e := he
  simp [observe, Book.observe, Liveness.observe, hl, renewed, epoch?]

/-- A payload is ignored, brings a new run, or belongs to the known run. -/
theorem receive_effect (p : Payload) (a : Adapter H) (s : Scene β H) :
    Hears p a s (receive p a s) := by
  unfold receive
  cases hm : Message.decode p with
  | none => exact .ignored _ hm
  | some msg =>
      by_cases he : a.epoch? = some msg.epoch
      · cases msg with
        | heartbeat e =>
            simp only [handle]
            rw [observe_of_known (show a.epoch? = some e from he)]
            exact .known _ _ hm he (fun u sub hu => by cases hu)
        | update u =>
            simp only [handle]
            rw [observe_of_known (show a.epoch? = some u.epoch from he)]
            have hsubs : (counted u.epoch a.book).subscriptions = a.book.subscriptions := rfl
            simp only [deliver, hsubs]
            cases hs : a.book.subscriptions.get? u.item with
            | none =>
                refine .known _ _ hm he (fun v sub hv hsub => ?_)
                cases hv
                rw [hs] at hsub
                cases hsub
            | some sub =>
                by_cases hid : sub.id = u.subscriptionId
                · simp only [hid, if_true]
                  rw [← hid]
                  exact .delivered u sub _ hm he hs hid
                · simp only [hid, if_false]
                  refine .known _ _ hm he (fun v sub' hv hsub => ?_)
                  cases hv
                  rw [hs] at hsub
                  cases hsub
                  exact hid
      · cases msg with
        | heartbeat e =>
            simp only [handle]
            rw [observe_of_new (show a.epoch? ≠ some e from he)]
            exact .anew _ _ hm he
        | update u =>
            simp only [handle]
            rw [observe_of_new (show a.epoch? ≠ some u.epoch from he)]
            exact .anew _ _ hm he

end Receiving

section Calls

/-- What a call of `subscribe` does to the adapter. -/
inductive Subscribes (a : Adapter H) (s : Scene β H) : Adapter H × Scene β H → Prop
  /-- The name is refused. -/
  | refused : Subscribes a s (a, s)
  /-- The item is registered and the request waits. -/
  | requested (i : Item) (handle : H) (h : a.epoch?.isSome = true) :
      Subscribes a s
        ({ a with
            book := (a.book.insert i handle).2.2.push (.subscribe i a.book.nextId)
            rounds := a.rounds + 1 },
          s.note (.subscribed i a.book.nextId))
  /-- The item is registered and the consumer is told that there is no producer. -/
  | idle (i : Item) (handle : H) (subs : SortedMap Item (Subscription H)) (m : Metrics)
      (notes : Array (Note H)) (h : a.epoch? = none) (hc : AllCalls notes) :
      Subscribes a s
        ({ a with book :=
            { a.book with subscriptions := subs, nextId := a.book.nextId + 1 } },
          { s with
            metrics := m
            journal := s.journal.push (.subscribed i a.book.nextId) ++ notes })

theorem subscribe_effect (name : String) (handle : H) (a : Adapter H) (s : Scene β H) :
    Subscribes a s (subscribe name handle a s).2 := by
  unfold subscribe
  cases Item.parse name with
  | error e => exact .refused
  | ok i =>
      by_cases hu : a.epoch?.isSome = true
      · have hup : (a.book.insert i handle).2.2.liveness.isFeedUp = true := hu
        simp only [hup, if_true]
        exact .requested i handle hu
      · have hup : (a.book.insert i handle).2.2.liveness.isFeedUp = false :=
          Bool.eq_false_iff.mpr hu
        simp only [hup, Bool.false_eq_true, if_false]
        obtain ⟨subs, m, notes, hc, h⟩ := deliverInactive_effect i
          { a with book := (a.book.insert i handle).2.2 }
          (s.note (.subscribed i (a.book.insert i handle).1))
        rw [h]
        exact .idle i handle subs m notes (by simpa using hu) hc

theorem unsubscribe_of_error {name : String} {e : ItemError} (hi : Item.parse name = .error e)
    (a : Adapter H) : unsubscribe name a = (.error (.notSubscribed name), a) := by
  simp only [unsubscribe, hi]

theorem unsubscribe_of_none {name : String} {i : Item} (hi : Item.parse name = .ok i)
    {a : Adapter H} (hs : a.book.subscriptions.get? i = none) :
    unsubscribe name a = (.error (.notSubscribed name), a) := by
  simp only [unsubscribe, hi, Book.remove, hs]

/-- A subscription is taken out, and the request for this waits if a producer run is known. -/
theorem unsubscribe_of_some {name : String} {i : Item} (hi : Item.parse name = .ok i)
    {a : Adapter H} {sub : Subscription H} (hs : a.book.subscriptions.get? i = some sub) :
    unsubscribe name a = (.ok (), if a.epoch?.isSome then
      { a with
        book := (a.book.remove i).2.push (.unsubscribe i sub.id)
        rounds := a.rounds + 1 }
      else { a with book := (a.book.remove i).2 }) := by
  simp only [unsubscribe, hi, Book.remove, hs]
  cases hu : a.epoch?.isSome with
  | true => simp only [show a.book.liveness.isFeedUp = true from hu, if_true]
  | false =>
      simp only [show a.book.liveness.isFeedUp = false from hu, Bool.false_eq_true, if_false]

/-- What a call of `unsubscribe` does to the adapter. -/
inductive Unsubscribes (a : Adapter H) : Adapter H → Prop
  /-- The name is refused. -/
  | refused : Unsubscribes a a
  /-- The subscription goes and the request waits. -/
  | requested (i : Item) (sub : Subscription H) (h : a.epoch?.isSome = true)
      (hs : a.book.subscriptions.get? i = some sub) :
      Unsubscribes a
        { a with
          book := (a.book.remove i).2.push (.unsubscribe i sub.id)
          rounds := a.rounds + 1 }
  /-- The subscription goes. -/
  | idle (i : Item) (h : a.epoch? = none) :
      Unsubscribes a { a with book := (a.book.remove i).2 }

theorem unsubscribe_effect (name : String) (a : Adapter H) :
    Unsubscribes a (unsubscribe name a).2 := by
  cases hi : Item.parse name with
  | error e =>
      rw [unsubscribe_of_error hi]
      exact .refused
  | ok i =>
      cases hs : a.book.subscriptions.get? i with
      | none =>
          rw [unsubscribe_of_none hi hs]
          exact .refused
      | some sub =>
          rw [unsubscribe_of_some hi hs]
          by_cases hu : a.epoch?.isSome = true
          · rw [if_pos hu]
            exact .requested i sub hu hs
          · rw [if_neg hu]
            exact .idle i (by simpa using hu)

end Calls

end Adapter
end QuoteBridge
