import QuoteBridge.Proofs.Adapter.Acts
import QuoteBridge.Proofs.Adapter.Watch

/-!
# Runs of an adapter

What an act does to the book decides what it adds to the adapter's journal and to the history.

**Results.**
* `Adapter.dispatchRound_eq_run`: a dispatch round is a run.
* `Adapter.reached_of_reachable`: every reachable adapter is reached by a run.
* `Adapter.effect_perform`: what an act does to the history, the journal and the book.
* `Adapter.run_induction`: what every such effect keeps holds after every run.
-/

namespace QuoteBridge
namespace Adapter

variable {β H : Type}

section Rounds

variable (link : Link β)

/-- What becomes of a request does not depend on the book. -/
theorem dispatchOne_withBook (r : Request) (a : Adapter H) (b : Book H) (s : Scene β H) :
    dispatchOne link r { a with book := b } s =
      ({ (dispatchOne link r a s).1 with book := b }, (dispatchOne link r a s).2) := by
  simp only [dispatchOne]
  split <;> rfl

theorem book_dispatchOne (r : Request) (a : Adapter H) (s : Scene β H) :
    (dispatchOne link r a s).1.book = a.book := by
  simp only [dispatchOne]
  split <;> rfl

/-- Sending waiting requests one by one is sending them all. -/
theorem run_send (rs : List Request) (a : Adapter H) (s : Scene β H) (h : a.book.pending = rs) :
    run link (List.replicate rs.length .send) (a, s) =
      dispatchAll link rs { a with book := a.book.clearPending } s := by
  induction rs generalizing a s with
  | nil =>
      have hsame : a.book.clearPending = a.book := by rw [Book.clearPending, ← h]
      rw [hsame]
      rfl
  | cons r rs ih =>
      have hpop : a.book.pop = (some r, { a.book with pending := rs }) := by rw [Book.pop, h]
      have hsend : perform link .send (a, s) =
          dispatchOne link r { a with book := { a.book with pending := rs } } s := by
        show sendNext link a s = _
        rw [sendNext, hpop]
      have hrest := ih { (dispatchOne link r a s).1 with book := { a.book with pending := rs } }
        (dispatchOne link r a s).2 rfl
      simp only [List.length_cons, List.replicate_succ, run_cons, hsend, dispatchAll,
        dispatchOne_withBook link r a { a.book with pending := rs } s,
        dispatchOne_withBook link r a a.book.clearPending s]
      exact hrest

theorem dispatchRound_eq_run (a : Adapter H) (s : Scene β H) :
    dispatchRound link a s =
      run link (List.replicate a.book.pending.length .send ++ [.endRound]) (a, s) := by
  rw [run_append, run_send link a.book.pending a s rfl]
  rfl

/-- Acts lead a fresh adapter to a state. -/
def Reached (link : Link β) (y : Adapter H × Scene β H) : Prop :=
  ∃ (x : Adapter H × Scene β H) (acts : List (Act β H)), IsFresh x ∧ run link acts x = y

variable {link}

theorem Reached.further {y : Adapter H × Scene β H} (h : Reached link y) (acts : List (Act β H)) :
    Reached link (run link acts y) := by
  obtain ⟨x, acts', hx, rfl⟩ := h
  exact ⟨x, acts' ++ acts, hx, run_append link acts' acts x⟩

theorem reached_of_reachable {a : Adapter H} {s : Scene β H} (h : Reachable link a s) :
    Reached link (a, s) := by
  induction h with
  | created c ha hs => exact ⟨_, [], ⟨⟨c, ha⟩, hs⟩, rfl⟩
  | started h ih => exact ih.further [.start]
  | subscribed name handle h ih => exact ih.further [.subscribe name handle]
  | unsubscribed name h ih => exact ih.further [.unsubscribe name]
  | received p h ih => exact ih.further [.receive p]
  | lost h ih => exact ih.further [.lose]
  | dispatched h ih =>
      rw [dispatchRound_eq_run]
      exact ih.further _
  | @dialed place a s r h hr ih =>
      have hdial : run link [.dial place] (a, s) = r := by
        rw [run_cons, run_nil, perform, hr, Option.getD_some]
      exact hdial ▸ ih.further [.dial place]
  | @looked place a s r h hr ih =>
      have hlook : run link [.look place] (a, s) = r := by
        rw [run_cons, run_nil, perform, hr, Option.getD_some]
      exact hlook ▸ ih.further [.look place]
  | stopped h ih => exact ih.further [.shutdown]
  | released h ih => exact ih.further [.release]
  | @waited t a s h ht ih =>
      have hwait : run link [.wait (t - s.now)] (a, s) = (a, { s with now := t }) := by
        show (a, { s with now := s.now + (t - s.now) }) = (a, { s with now := t })
        rw [Nat.add_sub_cancel' ht]
      exact hwait ▸ ih.further [.wait (t - s.now)]
  | busChanged b h ih => exact ih.further [.changeBus (fun _ => b)]

end Rounds

section Effects

/-- The call that tells a subscription that there is no producer. -/
def inactiveCall (now : Nat) (i : Item) (sub : Subscription H) : Delivery H :=
  ⟨now, i, sub.id, .inactive, sub.handle,
    if sub.snapshotSent then inactiveDelta else inactiveSnapshot, !sub.snapshotSent⟩

/-- The call that gives an update of the producer to a subscription. -/
def updateCall (now : Nat) (u : Update) (sub : Subscription H) : Delivery H :=
  ⟨now, u.item, sub.id, if sub.snapshotSent then .delta else .snapshot, sub.handle, u.fields,
    !sub.snapshotSent⟩

/-- A subscription to which an update was given. -/
def served (sub : Subscription H) : Subscription H := { sub with snapshotSent := true }

theorem kind_updateCall (now : Nat) (u : Update) (sub : Subscription H) :
    (updateCall now u sub).kind ≠ .inactive := by
  unfold updateCall
  cases sub.snapshotSent <;> simp

/-- What the journal tells of a loss: one call for each entry of the book. -/
def lossNotes (now : Nat) (es : List (Item × Subscription H)) : List (Note H) :=
  es.map (fun e => .called (inactiveCall now e.1 e.2))

theorem deliverInactive_of_get? {i : Item} {sub : Subscription H} {a : Adapter H}
    (h : a.book.subscriptions.get? i = some sub) (s : Scene β H) :
    deliverInactive i a s =
      ({ a with book := a.book.setSnapshotSent i true },
        (s.count (.delivered .inactive)).note (.called (inactiveCall s.now i sub))) := by
  simp only [deliverInactive, h]
  rfl

/-- Telling the last entries of the book makes one call for each of them. -/
theorem deliverInactiveAll_eq (before es : List (Item × Subscription H)) (a : Adapter H)
    (s : Scene β H) (h : a.book.subscriptions.entries = before ++ es) :
    ∃ subs m, subs.entries = before ++ es.map (fun e => (e.1, served e.2)) ∧
      deliverInactiveAll (es.map (·.1)) a s =
        ({ a with book := { a.book with subscriptions := subs } },
          { s with metrics := m, journal := s.journal ++ (lossNotes s.now es).toArray }) := by
  induction es generalizing before a s with
  | nil =>
      refine ⟨a.book.subscriptions, s.metrics, h, ?_⟩
      simp [deliverInactiveAll, lossNotes]
  | cons e es ih =>
      have hsub : a.book.subscriptions.get? e.1 = some e.2 :=
        a.book.subscriptions.mem_entries_iff.mp (by simp [h])
      have hserved : (a.book.setSnapshotSent e.1 true).subscriptions.entries =
          (before ++ [(e.1, served e.2)]) ++ es := by
        rw [List.append_assoc]
        exact a.book.subscriptions.entries_modify_append h served
      obtain ⟨subs, m, hsubs, heq⟩ := ih (before ++ [(e.1, served e.2)])
        { a with book := a.book.setSnapshotSent e.1 true }
        ((s.count (.delivered .inactive)).note (.called (inactiveCall s.now e.1 e.2))) hserved
      refine ⟨subs, m, by simpa using hsubs, ?_⟩
      rw [List.map_cons, deliverInactiveAll, deliverInactive_of_get? hsub, heq]
      simp [Scene.note, Scene.count, Book.setSnapshotSent, lossNotes]

/-- A loss is told to every subscription, in the order of the book, and changes nothing else of
the book but that no producer run is known. -/
theorem degrade_eq (cause : DownCause) (a : Adapter H) (s : Scene β H) :
    ∃ m, degrade cause a s =
      ({ a with book :=
          { a.book with
            subscriptions := a.book.subscriptions.map (fun _ => served)
            liveness := a.book.liveness.clearEpoch } },
        { s with
          metrics := m
          journal := s.journal ++ (lossNotes s.now a.book.subscriptions.entries).toArray }) := by
  obtain ⟨subs, m, hsubs, heq⟩ := deliverInactiveAll_eq [] a.book.subscriptions.entries
    { a with book := a.book.mapLiveness .clearEpoch } (s.count (.feedDown cause)) rfl
  have hmap : subs = a.book.subscriptions.map (fun _ => served) := SortedMap.ext hsubs
  exact ⟨m, hmap ▸ heq⟩

/-- What an act can do at some time to a book: what it adds to the history and to the journal, and
the book afterwards. -/
inductive Effect (now : Nat) (b : Book H) :
    Act β H → List (Event H) → List (Note H) → Book H → Prop
  | quiet (act : Act β H) (value : Bool) :
      Effect now b act [] [] (b.mapLiveness (.setConnected value))
  | subscribeRefused (name : String) (handle : H) (e : SubscriptionError) :
      Effect now b (.subscribe name handle) [.subscribed name handle (.error e)] [] b
  | unsubscribeRefused (name : String) (e : SubscriptionError) :
      Effect now b (.unsubscribe name) [.unsubscribed name (.error e)] [] b
  /-- A subscription while a producer run is known: the request waits. -/
  | requested {name : String} {i : Item} (handle : H) (hi : Item.parse name = .ok i)
      (he : b.liveness.epoch.isSome = true) :
      Effect now b (.subscribe name handle) [.subscribed name handle (.ok b.nextId)]
        [.subscribed i b.nextId] ((b.insert i handle).2.2.push (.subscribe i b.nextId))
  /-- A subscription while no producer run is known: the consumer is told so. -/
  | registered {name : String} {i : Item} (handle : H) (hi : Item.parse name = .ok i)
      (he : b.liveness.epoch = none) :
      Effect now b (.subscribe name handle) [.subscribed name handle (.ok b.nextId)]
        [.subscribed i b.nextId, .called (inactiveCall now i ⟨b.nextId, handle, false⟩)]
        ((b.insert i handle).2.2.setSnapshotSent i true)
  | withdrawn {name : String} {i : Item} {sub : Subscription H} (hi : Item.parse name = .ok i)
      (hs : b.subscriptions.get? i = some sub) (he : b.liveness.epoch.isSome = true) :
      Effect now b (.unsubscribe name) [.unsubscribed name (.ok ())] []
        ((b.remove i).2.push (.unsubscribe i sub.id))
  | removed {name : String} {i : Item} (hi : Item.parse name = .ok i)
      (he : b.liveness.epoch = none) :
      Effect now b (.unsubscribe name) [.unsubscribed name (.ok ())] [] (b.remove i).2
  | renewed {p : Payload} {msg : Message} (hm : Message.decode p = some msg)
      (he : b.liveness.epoch ≠ some msg.epoch) :
      Effect now b (.receive p) [.renewed msg.epoch] [.heard now msg.epoch true]
        (Adapter.renewed msg.epoch b)
  | known {p : Payload} {msg : Message} (hm : Message.decode p = some msg)
      (he : b.liveness.epoch = some msg.epoch) :
      Effect now b (.receive p) [] [.heard now msg.epoch false] (counted msg.epoch b)
  | delivered {p : Payload} {u : Update} {sub : Subscription H}
      (hm : Message.decode p = some (.update u)) (he : b.liveness.epoch = some u.epoch)
      (hs : b.subscriptions.get? u.item = some sub) (hid : sub.id = u.subscriptionId) :
      Effect now b (.receive p) [] [.heard now u.epoch false, .called (updateCall now u sub)]
        ((counted u.epoch b).setSnapshotSent u.item true)
  /-- The session is lost, or a watchdog finds its producer run silent. -/
  | degraded {act : Act β H} (value : Bool)
      (h : act = .lose ∨ (∃ k, act = .look k) ∧ b.liveness.epoch.isSome = true) :
      Effect now b act [] (lossNotes now b.subscriptions.entries)
        { b with
          subscriptions := b.subscriptions.map (fun _ => served)
          liveness := b.liveness.clearEpoch.setConnected value }
  | stopped :
      Effect now b .shutdown [] [] (b.mapLiveness (fun l => l.clearEpoch.setConnected false))
  | sent {r : Request} {rs : List Request} (answer : BusResult) (hp : b.pending = r :: rs) :
      Effect now b .send [.sent r answer] [] { b with pending := rs }

theorem Effect.same {now : Nat} {b b' : Book H} (act : Act β H) (h : b' = b) :
    Effect now b act [] [] b' := by
  subst h
  exact .quiet act b'.liveness.busConnected

theorem notes_eq {link : Link β} {act : Act β H} {x : Adapter H × Scene β H} {ns : List (Note H)}
    (hj : (perform link act x).2.journal.toList = x.2.journal.toList ++ ns) :
    notes link act x = ns := by
  rw [notes, hj]
  exact List.drop_left

theorem noted_of_effect {link : Link β} {act : Act β H} {x : Adapter H × Scene β H}
    {ns : List (Note H)}
    (hj : (perform link act x).2.journal.toList = x.2.journal.toList ++ ns)
    (h : Effect x.2.now x.1.book act (events link act x) ns (perform link act x).1.book) :
    (perform link act x).2.journal.toList = x.2.journal.toList ++ notes link act x ∧
      Effect x.2.now x.1.book act (events link act x) (notes link act x)
        (perform link act x).1.book := by
  rw [notes_eq hj]
  exact ⟨hj, h⟩

/-- An act that sends no request adds no more to the history than it tells the consumer. -/
theorem noted_of_answers {link : Link β} {act : Act β H} {x : Adapter H × Scene β H}
    {ns : List (Note H)} (hact : act ≠ .send)
    (hj : (perform link act x).2.journal.toList = x.2.journal.toList ++ ns)
    (h : Effect x.2.now x.1.book act (answers act x) ns (perform link act x).1.book) :
    (perform link act x).2.journal.toList = x.2.journal.toList ++ notes link act x ∧
      Effect x.2.now x.1.book act (events link act x) (notes link act x)
        (perform link act x).1.book := by
  rw [← events_of_ne_send x hact] at h
  exact noted_of_effect hj h

theorem book_retireIfGone (a : Adapter H) : a.retireIfGone.book = a.book := by
  unfold retireIfGone
  split <;> rfl

theorem subscribe_of_refused {name : String} {e : ItemError} (hi : Item.parse name = .error e)
    (handle : H) (a : Adapter H) (s : Scene β H) :
    subscribe name handle a s = (.error (.invalidItem e), a, s) := by
  simp only [subscribe, hi]

/-- While a producer run is known the request for a subscription waits. -/
theorem subscribe_of_known {name : String} {i : Item} (hi : Item.parse name = .ok i)
    {a : Adapter H} (hu : a.epoch?.isSome = true) (handle : H) (s : Scene β H) :
    subscribe name handle a s =
      (.ok a.book.nextId,
        { a with
          book := (a.book.insert i handle).2.2.push (.subscribe i a.book.nextId)
          rounds := a.rounds + 1 },
        s.note (.subscribed i a.book.nextId)) := by
  have hup : (a.book.insert i handle).2.2.liveness.isFeedUp = true := hu
  simp only [subscribe, hi, hup, if_true]
  rfl

/-- While no producer run is known a subscription is answered with a full snapshot on the spot. -/
theorem subscribe_of_unknown {name : String} {i : Item} (hi : Item.parse name = .ok i)
    {a : Adapter H} (he : a.epoch? = none) (handle : H) (s : Scene β H) :
    ∃ m, subscribe name handle a s =
      (.ok a.book.nextId,
        { a with book := (a.book.insert i handle).2.2.setSnapshotSent i true },
        { s with
          metrics := m
          journal := s.journal ++ #[.subscribed i a.book.nextId,
            .called (inactiveCall s.now i ⟨a.book.nextId, handle, false⟩)] }) := by
  have hdown : (a.book.insert i handle).2.2.liveness.isFeedUp = false := by
    show a.book.liveness.epoch.isSome = false
    rw [show a.book.liveness.epoch = none from he]
    rfl
  have hsub : (a.book.insert i handle).2.2.subscriptions.get? i =
      some ⟨a.book.nextId, handle, false⟩ := SortedMap.get?_insert_self _ _ _
  simp only [subscribe, hi, hdown, Bool.false_eq_true, if_false]
  rw [deliverInactive_of_get? (a := { a with book := (a.book.insert i handle).2.2 }) hsub]
  exact ⟨s.metrics.bump (.delivered .inactive), rfl⟩

theorem effect_subscribe (name : String) (handle : H) (a : Adapter H) (s : Scene β H) :
    ∃ ns, (subscribe name handle a s).2.2.journal.toList = s.journal.toList ++ ns ∧
      Effect s.now a.book (.subscribe name handle : Act β H)
        (answers (.subscribe name handle) (a, s)) ns (subscribe name handle a s).2.1.book := by
  simp only [answers]
  cases hi : Item.parse name with
  | error e =>
      rw [subscribe_of_refused hi]
      exact ⟨[], (List.append_nil _).symm, .subscribeRefused name handle _⟩
  | ok i =>
      by_cases hu : a.epoch?.isSome = true
      · rw [subscribe_of_known hi hu]
        exact ⟨[.subscribed i a.book.nextId], Array.toList_push, .requested handle hi hu⟩
      · have hnone : a.epoch? = none := by simpa using hu
        obtain ⟨m, h⟩ := subscribe_of_unknown hi hnone handle s
        rw [h]
        exact ⟨_, by simp, .registered handle hi hnone⟩

theorem effect_unsubscribe (name : String) (a : Adapter H) (s : Scene β H) :
    Effect s.now a.book (.unsubscribe name : Act β H) (answers (.unsubscribe name) (a, s)) []
      (unsubscribe name a).2.book := by
  simp only [answers]
  cases hi : Item.parse name with
  | error e =>
      rw [unsubscribe_of_error hi]
      exact .unsubscribeRefused name _
  | ok i =>
      cases hs : a.book.subscriptions.get? i with
      | none =>
          rw [unsubscribe_of_none hi hs]
          exact .unsubscribeRefused name _
      | some sub =>
          rw [unsubscribe_of_some hi hs]
          by_cases hu : a.epoch?.isSome = true
          · rw [if_pos hu]
            exact .withdrawn hi hs hu
          · rw [if_neg hu]
            exact .removed hi (show a.epoch? = none by simpa using hu)

theorem renewal?_of_known {p : Payload} {msg : Message} {a : Adapter H}
    (hm : Message.decode p = some msg) (he : a.epoch? = some msg.epoch) : renewal? p a = none := by
  have hl : a.book.liveness.epoch = some msg.epoch := he
  simp [renewal?, hm, Book.observe, Liveness.observe, hl]

theorem renewal?_of_new {p : Payload} {msg : Message} {a : Adapter H}
    (hm : Message.decode p = some msg) (he : a.epoch? ≠ some msg.epoch) :
    renewal? p a = some msg.epoch := by
  have hl : a.book.liveness.epoch ≠ some msg.epoch := he
  simp [renewal?, hm, Book.observe, Liveness.observe, hl]

theorem effect_receive (p : Payload) (a : Adapter H) (s : Scene β H) :
    ∃ ns, (receive p a s).2.journal.toList = s.journal.toList ++ ns ∧
      Effect s.now a.book (.receive p : Act β H) (answers (.receive p) (a, s)) ns
        (receive p a s).1.book := by
  simp only [answers]
  generalize hr : receive p a s = r
  cases hr ▸ receive_effect p a s with
  | ignored m hm =>
      have hnone : renewal? p a = none := by simp [renewal?, hm]
      rw [hnone]
      exact ⟨[], (List.append_nil _).symm, .same _ rfl⟩
  | anew msg m hm he =>
      rw [renewal?_of_new hm he]
      exact ⟨_, Array.toList_push, .renewed hm he⟩
  | known msg m hm he hu =>
      rw [renewal?_of_known hm he]
      exact ⟨_, Array.toList_push, .known hm he⟩
  | delivered u sub m hm he hs hid =>
      rw [renewal?_of_known hm he]
      exact ⟨_, by simp [updateCall], .delivered hm he hs hid⟩

theorem effect_look (link : Link β) (place : Nat) (a : Adapter H) (s : Scene β H) :
    ∃ ns, (perform link (.look place) (a, s)).2.journal.toList = s.journal.toList ++ ns ∧
      Effect s.now a.book (.look place : Act β H) [] ns
        (perform link (.look place) (a, s)).1.book := by
  simp only [perform]
  cases hr : watchFrom a s (a.watchdogs.take place) (a.watchdogs.drop place) with
  | none => exact ⟨[], (List.append_nil _).symm, .same _ rfl⟩
  | some r =>
      obtain ⟨before, w, after, -, -, rfl⟩ := watchFrom_cases hr
      simp only [Option.getD_some, look]
      split
      · rename_i hknown
        split
        · obtain ⟨m, hd⟩ := degrade_eq .producer a s
          rw [hd]
          refine ⟨_, Array.toList_append, .degraded a.book.liveness.busConnected
            (Or.inr ⟨⟨place, rfl⟩, ?_⟩)⟩
          simp [hknown.1]
        · exact ⟨[], (List.append_nil _).symm, .same _ rfl⟩
      · exact ⟨[], (List.append_nil _).symm, .same _ rfl⟩

/-- A supervisor that goes on changes no more of the book than whether a session is open. -/
theorem superviseFrom_book {link : Link β} {a : Adapter H} {s : Scene β H}
    {r : Adapter H × Scene β H} {vs done : List Supervisor}
    (h : superviseFrom link a s done vs = some r) :
    r.2.journal = s.journal ∧ ∃ value, r.1.book = a.book.mapLiveness (.setConnected value) := by
  obtain ⟨v, others, left, w, rfl, rfl⟩ := superviseFrom_turn h
  exact Supervisor.turn_induction (dialer link)
    (P := fun w : Adapter H × Scene β H => w.2.journal = s.journal ∧
      ∃ value, w.1.book = a.book.mapLiveness (.setConnected value))
    (fun w h => h) (fun w h => h)
    (fun w h => ⟨h.1, by rw [dialer, book_retireIfGone]; exact h.2⟩)
    (fun _ w h => h)
    (fun w ⟨hj, value, hb⟩ => ⟨hj, true, by simp [dialer, hb]; rfl⟩)
    s.now v ⟨rfl, a.book.liveness.busConnected, rfl⟩

theorem effect_dial (link : Link β) (place : Nat) (a : Adapter H) (s : Scene β H) :
    (perform link (.dial place) (a, s)).2.journal = s.journal ∧
      ∃ value, (perform link (.dial place) (a, s)).1.book =
        a.book.mapLiveness (.setConnected value) := by
  simp only [perform]
  cases hr : superviseFrom link a s (a.supervisors.take place) (a.supervisors.drop place) with
  | none => exact ⟨rfl, a.book.liveness.busConnected, rfl⟩
  | some r => exact superviseFrom_book hr

theorem effect_send (link : Link β) (a : Adapter H) (s : Scene β H) :
    (sendNext link a s).2.journal = s.journal ∧
      Effect s.now a.book (.send : Act β H) (events link .send (a, s)) []
        (sendNext link a s).1.book := by
  rw [events_send]
  simp only [sendNext, Book.pop]
  cases hp : a.book.pending with
  | nil => exact ⟨rfl, .same _ rfl⟩
  | cons r rs =>
      dsimp only
      refine ⟨?_, ?_⟩
      · simp only [dispatchOne, Outbox.sendRequest, Outbox.transmit]
        split <;> rfl
      · rw [book_dispatchOne]
        exact .sent _ hp

theorem effect_perform (link : Link β) (act : Act β H) (x : Adapter H × Scene β H) :
    (perform link act x).2.journal.toList = x.2.journal.toList ++ notes link act x ∧
      Effect x.2.now x.1.book act (events link act x) (notes link act x)
        (perform link act x).1.book := by
  obtain ⟨a, s⟩ := x
  have hquiet : ∀ {y : Adapter H × Scene β H}, y.2.journal = s.journal →
      y.2.journal.toList = s.journal.toList ++ [] := by
    intro y hj
    rw [hj, List.append_nil]
  cases act with
  | start => exact noted_of_answers (by simp) (hquiet rfl) (.same _ rfl)
  | subscribe name handle =>
      obtain ⟨ns, hj, h⟩ := effect_subscribe name handle a s
      exact noted_of_answers (by simp) hj h
  | unsubscribe name =>
      exact noted_of_answers (by simp) (hquiet rfl) (effect_unsubscribe name a s)
  | receive p =>
      obtain ⟨ns, hj, h⟩ := effect_receive p a s
      exact noted_of_answers (by simp) hj h
  | lose =>
      obtain ⟨m, hd⟩ := degrade_eq .bus a s
      have hj : (transportError a s).2.journal.toList =
          s.journal.toList ++ lossNotes s.now a.book.subscriptions.entries := by
        rw [transportError, hd]
        exact Array.toList_append
      refine noted_of_answers (by simp) hj ?_
      simp only [perform, transportError, hd]
      exact .degraded false (Or.inl rfl)
  | send =>
      obtain ⟨hj, h⟩ := effect_send link a s
      exact noted_of_effect (hquiet hj) h
  | endRound =>
      exact noted_of_answers (by simp) (hquiet rfl) (.same _ (book_retireIfGone _))
  | dial place =>
      obtain ⟨hj, value, hb⟩ := effect_dial link place a s
      refine noted_of_answers (by simp) (hquiet hj) ?_
      rw [hb]
      exact .quiet _ value
  | look place =>
      obtain ⟨ns, hj, h⟩ := effect_look link place a s
      exact noted_of_answers (by simp) hj h
  | shutdown => exact noted_of_answers (by simp) (hquiet rfl) .stopped
  | release => exact noted_of_answers (by simp) (hquiet rfl) (.same _ (book_retireIfGone _))
  | wait span => exact noted_of_answers (by simp) (hquiet rfl) (.same _ rfl)
  | changeBus change => exact noted_of_answers (by simp) (hquiet rfl) (.same _ rfl)

end Effects

section Induction

variable {link : Link β} {x : Adapter H × Scene β H} {acts : List (Act β H)}

theorem IsFresh.book (h : IsFresh x) : x.1.book = .initial := by
  obtain ⟨c, hc⟩ := h.created
  obtain ⟨o, ho⟩ := eq_of_create hc
  rw [ho]

/-- What holds of a fresh adapter, and is kept by every effect of the acts, holds after a run. -/
theorem run_induction {P : List (Event H) → List (Note H) → Book H → Prop} (hx : IsFresh x)
    (hfresh : P [] [] .initial)
    (hstep : ∀ {act now es js b ev ns b'}, act ∈ acts → Effect now b act ev ns b' →
      P es js b → P (es ++ ev) (js ++ ns) b') :
    P (history link acts x) (run link acts x).2.journal.toList (run link acts x).1.book := by
  -- the history behind `y` is no part of the state, so it has to be any one
  have hrun : ∀ (es : List (Event H)) (y : Adapter H × Scene β H) (acts' : List (Act β H)),
      acts' ⊆ acts → P es y.2.journal.toList y.1.book →
        P (es ++ history link acts' y) (run link acts' y).2.journal.toList
          (run link acts' y).1.book := by
    intro es y acts' hsub h
    induction acts' generalizing es y with
    | nil => simpa [history] using h
    | cons act acts' ih =>
        obtain ⟨hj, heff⟩ := effect_perform link act y
        have hnext := hstep (hsub List.mem_cons_self) heff h
        rw [← hj] at hnext
        have hrest := ih _ _ (fun act' hact => hsub (List.mem_cons_of_mem _ hact)) hnext
        rw [List.append_assoc] at hrest
        exact hrest
  have hstart : P [] x.2.journal.toList x.1.book := by
    rw [hx.journal, hx.book]
    exact hfresh
  exact hrun [] x acts (fun _ h => h) hstart

end Induction

section Demonstration

/-- The small adapter over a recorder. -/
def demoStart : Recorded := (demo, Scene.initial 0 (Recorder.create []))

def demoItem : Item := ⟨⟨6, by decide⟩⟩

/-- An item is subscribed to, a producer run is heard, the item is subscribed to again by another
name, and two of the three requests are sent. -/
def demoActs : List (Act Recorder String) :=
  [.start, .dial 0, .subscribe "item7" "first", .receive (Message.heartbeat 5).encode, .send,
    .subscribe "item07" "second", .send]

/-- An update for the second subscription, which is not marked as its snapshot. -/
def demoUpdate : Update := ⟨demoItem, .ofList [("bid", "7")], false, 2, 5⟩

def demoPayload : Payload := (Message.update demoUpdate).encode

theorem demoStart_isFresh : IsFresh demoStart :=
  ⟨⟨.brisk, rfl⟩, rfl⟩

theorem history_demoActs : history Recorder.link demoActs demoStart =
    [.subscribed "item7" "first" (.ok 1), .renewed 5, .sent .reset (.ok ()),
      .subscribed "item07" "second" (.ok 2), .sent (.subscribe demoItem 1) (.ok ())] := by
  decide +kernel

end Demonstration

end Adapter
end QuoteBridge
