import QuoteBridge.Adapter.Book
import QuoteBridge.Adapter.Inactive
import QuoteBridge.Outbox
import QuoteBridge.Reconnect

/-!
# The adapter

The adapter is the consumer's end of the feed.  It registers subscriptions, sends control requests
to the producer, and gives the consumer every update that belongs to a live subscription.

**Liveness.**  A new producer run makes the adapter replay its subscriptions and start a watchdog
for that run.  A watchdog that sees the stall counter unchanged for a whole interval, or a lost
bus connection, degrades the feed: the run is forgotten and every subscription is told so.

**Dispatch.**  Whoever queues requests asks for a dispatch round.  A round sends all waiting
requests; one that the bus refuses is dropped.

**Release.**  A released adapter goes on while an attempt to connect or a round is under way.  When
the last of them is over it retires its supervisors.
-/

namespace QuoteBridge

/-- Settings of an adapter; times are in milliseconds. -/
structure AdapterConfig where
  recoveryPause : Nat
  watchdogInterval : Nat
  poolBatch : Nat
  deriving DecidableEq, Repr

/-- Pause between attempts to connect, if nothing else is asked for. -/
def defaultRecoveryPause : Nat := 2000

/-- Envelopes in a batch, if nothing else is asked for. -/
def defaultPoolBatch : Nat := 15

namespace AdapterConfig

/-- Settings if nothing else is asked for. -/
def standard : AdapterConfig := ⟨defaultRecoveryPause, 2000, defaultPoolBatch⟩

/-- Settings with short intervals. -/
def brisk : AdapterConfig := ⟨20, 300, 2⟩

end AdapterConfig

/-- Why the consumer's call is refused. -/
inductive SubscriptionError
  | invalidItem (cause : ItemError)
  | notSubscribed (item : String)
  deriving DecidableEq, Repr

/-- Wording of a refusal. -/
def SubscriptionError.message : SubscriptionError → String
  | .invalidItem e => "(Subscribing) " ++ e.message
  | .notSubscribed i => "(Unsubscribing) Unexpected item: " ++ i

/-- A watch over one producer run: the stall counter at its last look, and the next look. -/
structure Watchdog where
  epoch : Epoch
  lastSeen : UInt64
  wake : Nat
  deriving DecidableEq, Repr

/-- An adapter whose consumer uses handles of type `H`.  `newest` is the newest generation of its
supervisors and `rounds` the number of dispatch rounds that have not run yet. -/
structure Adapter (H : Type) where
  config : AdapterConfig
  book : Book H
  outbox : Outbox
  newest : Nat
  supervisors : List Supervisor
  watchdogs : List Watchdog
  rounds : Nat
  released : Bool

namespace Adapter

variable {β H : Type}

/-- An adapter that has not been started. -/
def create (config : AdapterConfig) : Except PoolError (Adapter H) := do
  let outbox ← Outbox.create config.poolBatch
  return ⟨config, .initial, outbox, 0, [], [], 0, false⟩

def status (a : Adapter H) : FeedStatus := a.book.liveness.status

/-- The known producer run. -/
def epoch? (a : Adapter H) : Option Epoch := a.book.liveness.epoch

def subscriptionCount (a : Adapter H) : Nat := a.book.subscriptions.size

/-- Whether something still holds the adapter. -/
def isPresent (a : Adapter H) : Bool :=
  Supervisor.holdsOwner a.released a.supervisors || 0 < a.rounds

section Supervision

/-- Makes a newer generation. -/
def invalidate (a : Adapter H) : Adapter H := { a with newest := a.newest + 1 }

/-- Retires the supervisors if nothing holds the adapter any more. -/
def retireIfGone (a : Adapter H) : Adapter H := if a.isPresent then a else a.invalidate

/-- Starts a supervisor of a new generation. -/
def startReconnect (a : Adapter H) : Adapter H :=
  { a with
    newest := a.newest + 1
    supervisors := a.supervisors ++ [.create (a.newest + 1) a.config.recoveryPause] }

/-- What a supervisor does with the adapter. -/
def dialer (link : Link β) : Dialer (Adapter H × Scene β H) where
  newest w := w.1.newest
  reset w := (w.1, { w.2 with bus := link.reset w.2.now w.2.bus })
  dial w :=
    let r := link.connect w.2.now w.2.bus
    (r.1, w.1, { w.2 with bus := r.2 })
  arrived w := (w.1.retireIfGone, w.2)
  count ok w := (w.1, w.2.count (.attempts .adapter ok))
  connected w := ({ w.1 with book := w.1.book.mapLiveness (.setConnected true) }, w.2)

/-- Puts supervisors in place of the adapter's. -/
def staff (vs : List Supervisor) (w : Adapter H × Scene β H) : Adapter H × Scene β H :=
  ({ w.1 with supervisors := vs }, w.2)

/-- Lets the first of the given supervisors that can go on do so; `done` are those before it. -/
def superviseFrom (link : Link β) (a : Adapter H) (s : Scene β H) (done vs : List Supervisor) :
    Option (Adapter H × Scene β H) :=
  Supervisor.turnFirst (dialer link) staff s.now (a, s) done vs

end Supervision

section Updates

/-- Tells one subscription that there is no producer. -/
def deliverInactive (i : Item) (a : Adapter H) (s : Scene β H) : Adapter H × Scene β H :=
  match a.book.subscriptions.get? i with
  | none => (a, s)
  | some sub =>
      ({ a with book := a.book.setSnapshotSent i true },
        (s.count (.delivered .inactive)).deliver i sub.id .inactive sub.handle
          (if sub.snapshotSent then inactiveDelta else inactiveSnapshot) (!sub.snapshotSent))

/-- Tells some subscriptions in turn that there is no producer. -/
def deliverInactiveAll : List Item → Adapter H → Scene β H → Adapter H × Scene β H
  | [], a, s => (a, s)
  | i :: is, a, s =>
      let r := deliverInactive i a s
      deliverInactiveAll is r.1 r.2

/-- Forgets the producer run and tells every subscription so, in the order of the items. -/
def degrade (cause : DownCause) (a : Adapter H) (s : Scene β H) : Adapter H × Scene β H :=
  deliverInactiveAll a.book.subscriptions.keys
    { a with book := a.book.mapLiveness .clearEpoch } (s.count (.feedDown cause))

/-- Gives an update of the known run to its subscription. -/
def deliver (u : Update) (a : Adapter H) (s : Scene β H) : Adapter H × Scene β H :=
  match a.book.subscriptions.get? u.item with
  | none => (a, s.count (.discarded .unsubscribed))
  | some sub =>
      if sub.id = u.subscriptionId then
        let kind : DeliveryKind := if sub.snapshotSent then .delta else .snapshot
        ({ a with book := a.book.setSnapshotSent u.item true },
          (s.count (.delivered kind)).deliver u.item sub.id kind sub.handle u.fields
            (!sub.snapshotSent))
      else (a, s.count (.discarded .superseded))

/-- Accounts for a message of a producer run; a new run starts the replay and a watchdog. -/
def observe (e : Epoch) (a : Adapter H) (s : Scene β H) : Observation × Adapter H × Scene β H :=
  let seen := a.book.observe e
  match seen.1 with
  | .current => (seen.1, { a with book := seen.2 }, s.note (.heard s.now e false))
  | .new _ =>
      (seen.1,
        { a with
          book := seen.2.resubscribeAll
          watchdogs := a.watchdogs ++ [⟨e, 0, Timer.due s.now a.config.watchdogInterval⟩]
          rounds := a.rounds + 1 },
        (s.count .epochChanges).note (.heard s.now e true))

/-- Handles a bus message.  An update that brings a new run is dropped. -/
def handle (m : Message) (a : Adapter H) (s : Scene β H) : Adapter H × Scene β H :=
  match m with
  | .heartbeat e => (observe e a (s.count .heartbeatsReceived)).2
  | .update u =>
      match observe u.epoch a s with
      | (.current, a', s') => deliver u a' s'
      | (.new _, a', s') => (a', s'.count (.discarded .newEpoch))

/-- Handles a payload from the bus. -/
def receive (p : Payload) (a : Adapter H) (s : Scene β H) : Adapter H × Scene β H :=
  match Message.decode p with
  | none => (a, s.count (.discarded .malformed))
  | some m => handle m a s

/-- Handles the loss of the bus session. -/
def transportError (a : Adapter H) (s : Scene β H) : Adapter H × Scene β H :=
  let r := degrade .bus a s
  ({ r.1 with book := r.1.book.mapLiveness (.setConnected false) }.startReconnect, r.2)

/-- One look of a watchdog: what it is afterwards, if it goes on. -/
def look (w : Watchdog) (a : Adapter H) (s : Scene β H) :
    Option Watchdog × Adapter H × Scene β H :=
  if a.book.liveness.epoch = some w.epoch ∧ a.book.liveness.busConnected then
    if a.book.liveness.stallCounter = w.lastSeen then (none, degrade .producer a s)
    else
      let next := Timer.due s.now a.config.watchdogInterval
      (some ⟨w.epoch, a.book.liveness.stallCounter, next⟩, a, s)
  else (none, a, s)

/-- Lets the first of the given watchdogs that is due look; `done` are those before it. -/
def watchFrom (a : Adapter H) (s : Scene β H) (done : List Watchdog) :
    List Watchdog → Option (Adapter H × Scene β H)
  | [] => none
  | w :: ws =>
      if w.wake ≤ s.now then
        let r := look w a s
        some ({ r.2.1 with watchdogs := done ++ r.1.toList ++ ws }, r.2.2)
      else watchFrom a s (done ++ [w]) ws

end Updates

section Dispatch

/-- Sends one request; a refused one is dropped. -/
def dispatchOne (link : Link β) (r : Request) (a : Adapter H) (s : Scene β H) :
    Adapter H × Scene β H :=
  let sent := a.outbox.sendRequest link r s
  match sent.1 with
  | .ok () => ({ a with outbox := sent.2.1 }, sent.2.2.count .requestsDispatched)
  | .error _ => ({ a with outbox := sent.2.1 }, sent.2.2.count .requestsFailed)

/-- Sends requests in turn. -/
def dispatchAll (link : Link β) : List Request → Adapter H → Scene β H → Adapter H × Scene β H
  | [], a, s => (a, s)
  | r :: rs, a, s =>
      let sent := dispatchOne link r a s
      dispatchAll link rs sent.1 sent.2

def dispatchRound (link : Link β) (a : Adapter H) (s : Scene β H) : Adapter H × Scene β H :=
  let r := dispatchAll link a.book.pending { a with book := a.book.clearPending } s
  ({ r.1 with rounds := r.1.rounds - 1 }.retireIfGone, r.2)

end Dispatch

section Calls

/-- Starts listening and connecting. -/
def start (link : Link β) (a : Adapter H) (s : Scene β H) : Adapter H × Scene β H :=
  (a.startReconnect, { s with bus := link.listen s.now s.bus })

/-- Stops everything and closes the session. -/
def shutdown (link : Link β) (a : Adapter H) (s : Scene β H) : Adapter H × Scene β H :=
  ({ a.invalidate with book := a.book.mapLiveness (fun l => l.clearEpoch.setConnected false) },
    { s with bus := link.reset s.now s.bus })

/-- The last reference goes. -/
def release (a : Adapter H) : Adapter H := { a with released := true }.retireIfGone

/-- Starts receiving updates for an item. -/
def subscribe (name : String) (handle : H) (a : Adapter H) (s : Scene β H) :
    Except SubscriptionError SubscriptionId × Adapter H × Scene β H :=
  match Item.parse name with
  | .error e => (.error (.invalidItem e), a, s)
  | .ok i =>
      let (id, _, book) := a.book.insert i handle
      let s := s.note (.subscribed i id)
      if book.liveness.isFeedUp then
        (.ok id, { a with book := book.push (.subscribe i id), rounds := a.rounds + 1 }, s)
      else (.ok id, deliverInactive i { a with book := book } s)

/-- Stops receiving updates for an item. -/
def unsubscribe (name : String) (a : Adapter H) : Except SubscriptionError Unit × Adapter H :=
  match Item.parse name with
  | .error _ => (.error (.notSubscribed name), a)
  | .ok i =>
      match a.book.remove i with
      | (none, _) => (.error (.notSubscribed name), a)
      | (some sub, book) =>
          if book.liveness.isFeedUp then
            (.ok (), { a with
              book := book.push (.unsubscribe i sub.id)
              rounds := a.rounds + 1 })
          else (.ok (), { a with book := book })

/-- Whether a snapshot can be made for an item: always, as one without a producer will do. -/
def isSnapshotAvailable (_name : String) (_a : Adapter H) : Bool := true

end Calls

/-- Does one piece of the work that is due: a supervisor's or a watchdog's. -/
def step? (link : Link β) (a : Adapter H) (s : Scene β H) : Option (Adapter H × Scene β H) :=
  match superviseFrom link a s [] a.supervisors with
  | some r => some r
  | none => if a.isPresent then watchFrom a s [] a.watchdogs else none

/-- Instants that the adapter waits for. -/
def wakes (a : Adapter H) : List Nat :=
  a.supervisors.filterMap Supervisor.wake? ++
    (if a.isPresent then a.watchdogs.map (·.wake) else [])

end Adapter

end QuoteBridge
