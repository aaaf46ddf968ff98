import QuoteBridge.Adapter.Liveness
import QuoteBridge.SortedMap

/-!
# The book of subscriptions

The book holds at most one subscription for each item, the requests that wait to be sent, and what
is known about the producer.

**Snapshots.**  The first update given to a subscription is its snapshot.  Whoever claims the
snapshot gets it once; a new producer run makes it available again.
-/

namespace QuoteBridge

/-- The consumer's interest in one item. -/
structure Subscription (H : Type) where
  id : SubscriptionId
  handle : H
  snapshotSent : Bool

/-- Subscriptions by item, the next id, the waiting requests with the oldest first, and the
liveness of the producer. -/
structure Book (H : Type) where
  subscriptions : SortedMap Item (Subscription H)
  nextId : SubscriptionId
  pending : List Request
  liveness : Liveness

namespace Book

variable {H : Type}

/-- The empty book. -/
def initial : Book H := ⟨.empty, 1, [], .initial⟩

/-- Registers an item under a new id; gives the id and the subscription that it replaces. -/
def insert (i : Item) (handle : H) (b : Book H) :
    SubscriptionId × Option (Subscription H) × Book H :=
  (b.nextId, b.subscriptions.get? i,
    { b with
      subscriptions := b.subscriptions.insert i ⟨b.nextId, handle, false⟩
      nextId := b.nextId + 1 })

/-- Takes out the subscription of an item. -/
def remove (i : Item) (b : Book H) : Option (Subscription H) × Book H :=
  (b.subscriptions.get? i, { b with subscriptions := b.subscriptions.erase i })

/-- Records whether the snapshot of an item was given out. -/
def setSnapshotSent (i : Item) (value : Bool) (b : Book H) : Book H :=
  { b with
    subscriptions := b.subscriptions.modify i (fun s => { s with snapshotSent := value }) }

/-- Claims the snapshot of an item: whether it was still available. -/
def claimSnapshot (i : Item) (b : Book H) : Option Bool × Book H :=
  ((b.subscriptions.get? i).map (fun s => !s.snapshotSent), b.setSnapshotSent i true)

/-- Adds a request behind the waiting ones. -/
def push (r : Request) (b : Book H) : Book H := { b with pending := b.pending ++ [r] }

/-- Takes out the oldest waiting request. -/
def pop (b : Book H) : Option Request × Book H :=
  match b.pending with
  | [] => (none, b)
  | r :: rs => (some r, { b with pending := rs })

/-- Drops the waiting requests. -/
def clearPending (b : Book H) : Book H := { b with pending := [] }

/-- The requests that build up the producer's view from nothing. -/
def replay (b : Book H) : List Request :=
  .reset :: b.subscriptions.entries.map (fun e => .subscribe e.1 e.2.id)

/-- Makes every snapshot available again and lets the replay wait in place of older requests. -/
def resubscribeAll (b : Book H) : Book H :=
  { b with
    subscriptions := b.subscriptions.map (fun _ s => { s with snapshotSent := false })
    pending := b.replay }

/-- Changes what is known about the producer. -/
def mapLiveness (f : Liveness → Liveness) (b : Book H) : Book H :=
  { b with liveness := f b.liveness }

/-- Accounts for a message of a producer run. -/
def observe (e : Epoch) (b : Book H) : Observation × Book H :=
  ((b.liveness.observe e).1, { b with liveness := (b.liveness.observe e).2 })

end Book

end QuoteBridge
