import QuoteBridge.Proofs.Generator.Effects
import QuoteBridge.Proofs.Request.RoundTrip

/-!
# Acts of an adapter

A run is a list of acts, performed one after the other.  It leaves the adapter's journal, and
beside it a history: what the consumer was told by its calls, which producer runs were taken up,
and which requests were handed to the bus.

**Acts.**  Every call, message, loss, look and turn is one act, and any supervisor or watchdog that
is due may go first.  A dispatch round is as many acts as requests wait, and one more at its end;
other acts may come in between.

**Notes.**  What was handed to the bus is what a link notes that is used for the run.  Such a link
changes nothing but its notes.

**Results.**
* `Adapter.perform_withNotes`: an act at a bus with notes.
* `Adapter.events_of_ne_send`, `Adapter.events_send`: what an act adds to the history.
* `Adapter.run_withNotes`: what a bus has noted behind a run.
-/

namespace QuoteBridge

variable {β H : Type}

/-- The same surroundings with a bus that has some notes. -/
def Scene.withNotes (ns : List Sending) (s : Scene β H) : Scene (Noted β) H :=
  { s with bus := (s.bus, ns) }

namespace Adapter

section Acts

/-- Something that happens to an adapter.  A place is one in the list of supervisors or of
watchdogs, from which on the first one that is due goes on. -/
inductive Act (β H : Type)
  | start
  | subscribe (name : String) (handle : H)
  | unsubscribe (name : String)
  | receive (p : Payload)
  | lose
  | send
  | endRound
  | dial (place : Nat)
  | look (place : Nat)
  | shutdown
  | release
  | wait (span : Nat)
  | changeBus (change : β → β)

deriving instance DecidableEq for Except

/-- An entry of the history. -/
inductive Event (H : Type)
  | subscribed (name : String) (handle : H) (answer : Except SubscriptionError SubscriptionId)
  | unsubscribed (name : String) (answer : Except SubscriptionError Unit)
  | renewed (e : Epoch)
  | sent (r : Request) (answer : BusResult)
  deriving DecidableEq

/-- Sends the oldest waiting request. -/
def sendNext (link : Link β) (a : Adapter H) (s : Scene β H) : Adapter H × Scene β H :=
  match a.book.pop with
  | (none, _) => (a, s)
  | (some r, book) => dispatchOne link r { a with book := book } s

def endRound (a : Adapter H) : Adapter H := { a with rounds := a.rounds - 1 }.retireIfGone

def perform (link : Link β) : Act β H → Adapter H × Scene β H → Adapter H × Scene β H
  | .start, x => start link x.1 x.2
  | .subscribe name handle, x => (subscribe name handle x.1 x.2).2
  | .unsubscribe name, x => ((unsubscribe name x.1).2, x.2)
  | .receive p, x => receive p x.1 x.2
  | .lose, x => transportError x.1 x.2
  | .send, x => sendNext link x.1 x.2
  | .endRound, x => (x.1.endRound, x.2)
  | .dial k, x =>
      (superviseFrom link x.1 x.2 (x.1.supervisors.take k) (x.1.supervisors.drop k)).getD x
  | .look k, x => (watchFrom x.1 x.2 (x.1.watchdogs.take k) (x.1.watchdogs.drop k)).getD x
  | .shutdown, x => shutdown link x.1 x.2
  | .release, x => (x.1.release, x.2)
  | .wait span, x => (x.1, { x.2 with now := x.2.now + span })
  | .changeBus change, x => (x.1, { x.2 with bus := change x.2.bus })

/-- The new producer run that a payload brings. -/
def renewal? (p : Payload) (a : Adapter H) : Option Epoch :=
  (Message.decode p).bind (fun m =>
    match (a.book.observe m.epoch).1 with
    | .current => none
    | .new _ => some m.epoch)

/-- What an act tells the consumer, and the producer run that it takes up. -/
def answers : Act β H → Adapter H × Scene β H → List (Event H)
  | .subscribe name handle, x => [.subscribed name handle (subscribe name handle x.1 x.2).1]
  | .unsubscribe name, x => [.unsubscribed name (unsubscribe name x.1).1]
  | .receive p, x => (renewal? p x.1).toList.map .renewed
  | _, _ => []

/-- The same act at a bus with notes, which stay whatever becomes of the bus. -/
def Act.noted : Act β H → Act (Noted β) H
  | .start => .start
  | .subscribe name handle => .subscribe name handle
  | .unsubscribe name => .unsubscribe name
  | .receive p => .receive p
  | .lose => .lose
  | .send => .send
  | .endRound => .endRound
  | .dial place => .dial place
  | .look place => .look place
  | .shutdown => .shutdown
  | .release => .release
  | .wait span => .wait span
  | .changeBus change => .changeBus (fun b => (change b.1, b.2))

/-- The same adapter at a bus that has some notes. -/
def withNotes (ns : List Sending) (x : Adapter H × Scene β H) : Adapter H × Scene (Noted β) H :=
  (x.1, x.2.withNotes ns)

/-- What an act hands to the bus: the notes of a bus that had none. -/
def handed (link : Link β) (act : Act β H) (x : Adapter H × Scene β H) : List Sending :=
  (perform link.noted act.noted (withNotes [] x)).2.bus.2

/-- What the history has of a payload that was handed to the bus: the request that the other side
reads in it. -/
def Event.ofSending? (n : Sending) : Option (Event H) :=
  match n.channel with
  | .requests => (Generator.readRequest n.payload).map (fun r => .sent r n.answer)
  | .updates => none

/-- What an act adds to the history. -/
def events (link : Link β) (act : Act β H) (x : Adapter H × Scene β H) : List (Event H) :=
  answers act x ++ (handed link act x).filterMap Event.ofSending?

/-- Performs acts in turn. -/
def run (link : Link β) (acts : List (Act β H)) (x : Adapter H × Scene β H) :
    Adapter H × Scene β H :=
  acts.foldl (fun x act => perform link act x) x

/-- The history of acts performed in turn. -/
def history (link : Link β) : List (Act β H) → Adapter H × Scene β H → List (Event H)
  | [], _ => []
  | act :: acts, x => events link act x ++ history link acts (perform link act x)

/-- What an act adds to the journal. -/
def notes (link : Link β) (act : Act β H) (x : Adapter H × Scene β H) : List (Note H) :=
  (perform link act x).2.journal.toList.drop x.2.journal.size

def calls (link : Link β) (act : Act β H) (x : Adapter H × Scene β H) : List (Delivery H) :=
  (notes link act x).filterMap Note.call?

/-- An adapter to which nothing has happened, with an empty journal. -/
structure IsFresh (x : Adapter H × Scene β H) : Prop where
  created : ∃ c, create c = .ok x.1
  journal : x.2.journal = #[]

variable (link : Link β) (acts acts' : List (Act β H)) (act : Act β H) (x : Adapter H × Scene β H)

@[simp] theorem run_nil : run link [] x = x := rfl

@[simp] theorem run_cons : run link (act :: acts) x = run link acts (perform link act x) := rfl

@[simp] theorem run_append : run link (acts ++ acts') x = run link acts' (run link acts x) :=
  List.foldl_append

@[simp] theorem history_append :
    history link (acts ++ acts') x =
      history link acts x ++ history link acts' (run link acts x) := by
  induction acts generalizing x with
  | nil => rfl
  | cons act acts ih => simp [history, ih]

end Acts

section Notes

/-- What is noted of a request that was handed over. -/
def sendingOf (r : Request) (answer : BusResult) : Sending := ⟨.requests, requestOctets r, answer⟩

/-- What a bus notes of an entry of the history. -/
def Event.sending? : Event H → Option Sending
  | .sent r answer => some (sendingOf r answer)
  | _ => none

variable (ns : List Sending) (a : Adapter H) (s : Scene β H)

/-- The notes of a bus do not show in what the consumer is told. -/
theorem deliverInactive_withNotes (i : Item) :
    deliverInactive i a (s.withNotes ns) = withNotes ns (deliverInactive i a s) := by
  unfold deliverInactive
  cases a.book.subscriptions.get? i with
  | none => rfl
  | some sub => rfl

theorem deliverInactiveAll_withNotes (is : List Item) :
    deliverInactiveAll is a (s.withNotes ns) = withNotes ns (deliverInactiveAll is a s) := by
  induction is generalizing a s with
  | nil => rfl
  | cons i is ih =>
      rw [deliverInactiveAll, deliverInactive_withNotes]
      exact ih (deliverInactive i a s).1 (deliverInactive i a s).2

theorem degrade_withNotes (cause : DownCause) :
    degrade cause a (s.withNotes ns) = withNotes ns (degrade cause a s) :=
  deliverInactiveAll_withNotes ns { a with book := a.book.mapLiveness .clearEpoch }
    (s.count (.feedDown cause)) a.book.subscriptions.keys

theorem subscribe_withNotes (name : String) (handle : H) :
    (subscribe name handle a (s.withNotes ns)).2 = withNotes ns (subscribe name handle a s).2 := by
  unfold subscribe
  cases Item.parse name with
  | error e => rfl
  | ok i =>
      dsimp only
      split
      · rfl
      · exact deliverInactive_withNotes ns { a with book := (a.book.insert i handle).2.2 }
          (s.note (.subscribed i (a.book.insert i handle).1)) i

theorem deliver_withNotes (u : Update) :
    deliver u a (s.withNotes ns) = withNotes ns (deliver u a s) := by
  unfold deliver
  cases a.book.subscriptions.get? u.item with
  | none => rfl
  | some sub =>
      dsimp only
      split <;> rfl

theorem observe_withNotes (e : Epoch) :
    observe e a (s.withNotes ns) = ((observe e a s).1, withNotes ns (observe e a s).2) := by
  unfold observe
  obtain ⟨seen, b⟩ := a.book.observe e
  cases seen with
  | current => rfl
  | new previous => rfl

theorem receive_withNotes (p : Payload) :
    receive p a (s.withNotes ns) = withNotes ns (receive p a s) := by
  unfold receive
  cases Message.decode p with
  | none => rfl
  | some m =>
      cases m with
      | heartbeat e =>
          exact congrArg Prod.snd (observe_withNotes ns a (s.count .heartbeatsReceived) e)
      | update u =>
          simp only [handle, observe_withNotes]
          obtain ⟨seen, a', s'⟩ := observe u.epoch a s
          cases seen with
          | current => exact deliver_withNotes ns a' s' u
          | new previous => rfl

theorem look_withNotes (w : Watchdog) :
    look w a (s.withNotes ns) = ((look w a s).1, withNotes ns (look w a s).2) := by
  unfold look
  split
  · split
    · rw [degrade_withNotes]
    · rfl
  · rfl

theorem watchFrom_withNotes (done ws : List Watchdog) :
    watchFrom a (s.withNotes ns) done ws = (watchFrom a s done ws).map (withNotes ns) := by
  induction ws generalizing done with
  | nil => rfl
  | cons w ws ih =>
      by_cases hw : w.wake ≤ s.now
      · have hw' : w.wake ≤ (s.withNotes ns).now := hw
        simp only [watchFrom, hw, hw', if_true, look_withNotes]
        rfl
      · have hw' : ¬ w.wake ≤ (s.withNotes ns).now := hw
        simp only [watchFrom, hw, hw', if_false]
        exact ih (done ++ [w])

variable (link : Link β)

theorem superviseFrom_withNotes (done vs : List Supervisor) :
    superviseFrom link.noted a (s.withNotes ns) done vs =
      (superviseFrom link a s done vs).map (withNotes ns) :=
  Supervisor.turnFirst_view (d := dialer link) (f := withNotes ns)
    ⟨fun _ => rfl, fun _ => rfl, fun _ => rfl, fun _ => rfl, fun _ _ => rfl, fun _ => rfl⟩
    (fun _ _ => rfl) s.now (a, s) done vs

/-- A request that is sent is noted with the bus's answer. -/
theorem dispatchOne_withNotes (r : Request) :
    dispatchOne link.noted r a (s.withNotes ns) =
      withNotes (ns ++ [sendingOf r (link.send s.now .requests (requestOctets r) s.bus).1])
        (dispatchOne link r a s) := by
  have hbody : (a.outbox.pool .requests).acquire.1.body ++ r.text.toUTF8 = requestOctets r := by
    rw [Pool.body_acquire, ByteArray.empty_append, requestOctets]
  simp only [dispatchOne, Outbox.sendRequest, Outbox.transmit, hbody, Link.noted, Scene.withNotes]
  obtain ⟨answer, b⟩ := link.send s.now .requests (requestOctets r) s.bus
  cases answer with
  | ok u => rfl
  | error f => rfl

/-- What is noted of a request that is sent next. -/
def nextSending (link : Link β) (x : Adapter H × Scene β H) : List Sending :=
  x.1.book.pending.head?.toList.map
    (fun r => sendingOf r (link.send x.2.now .requests (requestOctets r) x.2.bus).1)

theorem sendNext_withNotes :
    sendNext link.noted a (s.withNotes ns) =
      withNotes (ns ++ nextSending link (a, s)) (sendNext link a s) := by
  unfold sendNext nextSending Book.pop
  cases a.book.pending with
  | nil =>
      show withNotes ns (a, s) = withNotes (ns ++ []) (a, s)
      rw [List.append_nil]
  | cons r rs => exact dispatchOne_withNotes ns _ s link r

variable {link} {act : Act β H} (x : Adapter H × Scene β H)

theorem perform_withNotes_of_ne (h : act ≠ .send) :
    perform link.noted act.noted (withNotes ns x) = withNotes ns (perform link act x) := by
  obtain ⟨a, s⟩ := x
  cases act with
  | start => rfl
  | subscribe name handle => exact subscribe_withNotes ns a s name handle
  | unsubscribe name => rfl
  | receive p => exact receive_withNotes ns a s p
  | lose =>
      simp only [Act.noted, perform, withNotes, transportError, degrade_withNotes]
  | send => exact absurd rfl h
  | endRound => rfl
  | dial place =>
      simp only [Act.noted, perform, withNotes, superviseFrom_withNotes]
      cases superviseFrom link a s (a.supervisors.take place) (a.supervisors.drop place) <;> rfl
  | look place =>
      simp only [Act.noted, perform, withNotes, watchFrom_withNotes]
      cases watchFrom a s (a.watchdogs.take place) (a.watchdogs.drop place) <;> rfl
  | shutdown => rfl
  | release => rfl
  | wait span => rfl
  | changeBus change => rfl

theorem handed_of_ne_send (h : act ≠ .send) : handed link act x = [] := by
  rw [handed, perform_withNotes_of_ne [] x h]
  rfl

theorem handed_send : handed link .send x = nextSending link x := by
  show (sendNext link.noted x.1 (x.2.withNotes [])).2.bus.2 = _
  rw [sendNext_withNotes]
  rfl

/-- A bus with notes notes what an act hands to it, and all else is as without the notes. -/
theorem perform_withNotes (act : Act β H) :
    perform link.noted act.noted (withNotes ns x) =
      withNotes (ns ++ handed link act x) (perform link act x) := by
  by_cases h : act = .send
  · subst h
    rw [handed_send]
    exact sendNext_withNotes ns x.1 x.2 link
  · rw [perform_withNotes_of_ne ns x h, handed_of_ne_send x h, List.append_nil]

theorem events_of_ne_send (h : act ≠ .send) : events link act x = answers act x := by
  rw [events, handed_of_ne_send x h, List.filterMap_nil, List.append_nil]

/-- The other side reads a request as what it is. -/
theorem ofSending?_sendingOf (r : Request) (answer : BusResult) :
    (Event.ofSending? (sendingOf r answer) : Option (Event H)) = some (.sent r answer) := by
  simp only [Event.ofSending?, sendingOf, requestOctets, Generator.readRequest_text]
  rfl

theorem events_send : events link .send x = x.1.book.pending.head?.toList.map
    (fun r => .sent r (link.send x.2.now .requests (requestOctets r) x.2.bus).1) := by
  rw [events, handed_send, nextSending]
  cases x.1.book.pending.head? with
  | none => rfl
  | some r => simp [answers, ofSending?_sendingOf]

theorem sending?_answers (act : Act β H) : (answers act x).filterMap Event.sending? = [] := by
  refine List.filterMap_eq_nil_iff.mpr (fun entry hm => ?_)
  cases entry with
  | subscribed name handle answer => rfl
  | unsubscribed name answer => rfl
  | renewed e => rfl
  | sent r answer => cases act <;> simp [answers] at hm

theorem sending?_events (act : Act β H) :
    (events link act x).filterMap Event.sending? = handed link act x := by
  by_cases h : act = .send
  · subst h
    rw [events_send, handed_send, nextSending, List.filterMap_map, ← List.filterMap_eq_map]
    rfl
  · rw [events_of_ne_send x h, handed_of_ne_send x h, sending?_answers]

/-- What a bus has noted behind a run is what the history has of it, and all else is as without the
notes. -/
theorem run_withNotes (acts : List (Act β H)) :
    run link.noted (acts.map Act.noted) (withNotes ns x) =
      withNotes (ns ++ (history link acts x).filterMap Event.sending?) (run link acts x) := by
  induction acts generalizing ns x with
  | nil => rw [history, List.filterMap_nil, List.append_nil]; rfl
  | cons act acts ih =>
      rw [List.map_cons, run_cons, perform_withNotes, ih, history, List.filterMap_append,
        sending?_events, List.append_assoc]
      rfl

end Notes

end Adapter
end QuoteBridge
