import QuoteBridge.Generator.Gate
import QuoteBridge.Market
import QuoteBridge.Outbox
import QuoteBridge.Reconnect

/-!
# The generator

The generator is the producer's end of the feed.  It handles control requests, lets the events of
its market through the gate, and publishes updates and heartbeats.

**Tasks.**  A heartbeat is published first one interval after the start and then after every
interval.  The market ticks at once and then after every interval; an interval of zero never ticks.

**Release.**  A released generator goes on while an attempt to connect is under way.  When the last
of them is over it stops its tasks and retires its supervisors.
-/

namespace QuoteBridge

/-- Settings of a generator; times are in milliseconds.  An epoch or seed that is missing is drawn
at random by whoever starts the program. -/
structure GeneratorConfig where
  heartbeatInterval : Nat
  tickInterval : Nat
  recoveryPause : Nat
  poolBatch : Nat
  epoch : Option Epoch
  seed : Option UInt64
  deriving DecidableEq, Repr

namespace GeneratorConfig

/-- Settings if nothing else is asked for. -/
def standard : GeneratorConfig := ⟨1000, 100, 2000, 15, none, none⟩

/-- Settings with short intervals and a fixed seed. -/
def brisk : GeneratorConfig := ⟨50, 10, 20, 2, none, some 42⟩

/-- Fixes the epoch. -/
def withEpoch (e : Epoch) (c : GeneratorConfig) : GeneratorConfig := { c with epoch := some e }

end GeneratorConfig

/-- A generator.  `heartbeats` and `ticks` hold the next instants of its tasks; `wired` tells
whether the market's events reach the generator. -/
structure Generator where
  config : GeneratorConfig
  epoch : Epoch
  gate : Gate
  outbox : Outbox
  market : Market
  newest : Nat
  supervisors : List Supervisor
  heartbeats : List Nat
  ticks : List Nat
  wired : Bool
  released : Bool

namespace Generator

variable {β H : Type}

/-- A generator that has not been started; an epoch or seed that is missing is zero. -/
def create (config : GeneratorConfig) : Except PoolError Generator := do
  let outbox ← Outbox.create config.poolBatch
  return ⟨config, config.epoch.getD 0, .empty, outbox, .ofSeed (config.seed.getD 0), 0, [], [], [],
    false, false⟩

def subscriptionCount (g : Generator) : Nat := g.gate.size

/-- Whether something still holds the generator. -/
def isPresent (g : Generator) : Bool := Supervisor.holdsOwner g.released g.supervisors

section Supervision

/-- Makes a newer generation. -/
def invalidate (g : Generator) : Generator := { g with newest := g.newest + 1 }

/-- Retires the supervisors and stops the tasks. -/
def stop (g : Generator) : Generator := { g.invalidate with heartbeats := [], ticks := [] }

/-- Stops if nothing holds the generator any more. -/
def stopIfGone (g : Generator) : Generator := if g.isPresent then g else g.stop

/-- Starts a supervisor of a new generation. -/
def startReconnect (g : Generator) : Generator :=
  { g with
    newest := g.newest + 1
    supervisors := g.supervisors ++ [.create (g.newest + 1) g.config.recoveryPause] }

/-- What a supervisor does with the generator. -/
def dialer (link : Link β) : Dialer (Generator × Scene β H) where
  newest w := w.1.newest
  reset w := (w.1, { w.2 with bus := link.reset w.2.now w.2.bus })
  dial w :=
    let r := link.connect w.2.now w.2.bus
    (r.1, w.1, { w.2 with bus := r.2 })
  arrived w := (w.1.stopIfGone, w.2)
  count ok w := (w.1, w.2.count (.attempts .generator ok))
  connected w := w

/-- Puts supervisors in place of the generator's. -/
def staff (vs : List Supervisor) (w : Generator × Scene β H) : Generator × Scene β H :=
  ({ w.1 with supervisors := vs }, w.2)

/-- Lets the first of the given supervisors that can go on do so; `done` are those before it. -/
def superviseFrom (link : Link β) (g : Generator) (s : Scene β H) (done vs : List Supervisor) :
    Option (Generator × Scene β H) :=
  Supervisor.turnFirst (dialer link) staff s.now (g, s) done vs

end Supervision

section Publishing

def publishHeartbeat (link : Link β) (g : Generator) (s : Scene β H) : Generator × Scene β H :=
  let sent := g.outbox.publish link (.heartbeat g.epoch) s
  match sent.1 with
  | .ok () => ({ g with outbox := sent.2.1 }, sent.2.2.count .heartbeatsPublished)
  | .error _ => ({ g with outbox := sent.2.1 }, sent.2.2)

def publishUpdate (link : Link β) (u : Update) (g : Generator) (s : Scene β H) :
    Generator × Scene β H :=
  let sent := g.outbox.publish link (.update u) s
  match sent.1 with
  | .ok () => ({ g with outbox := sent.2.1 }, sent.2.2.count .updatesPublished)
  | .error _ => ({ g with outbox := sent.2.1 }, sent.2.2)

/-- Lets an event through the gate. -/
def onEvent (link : Link β) (e : MarketEvent) (g : Generator) (s : Scene β H) :
    Generator × Scene β H :=
  let decided := g.gate.pass e.item e.isSnapshot
  match decided.1 with
  | .drop => ({ g with gate := decided.2 }, s)
  | .publish id isSnapshot =>
      publishUpdate link ⟨e.item, e.fields, isSnapshot, id, g.epoch⟩
        { g with gate := decided.2 } s

/-- Tells the generator an event of its market, if it listens. -/
def hear (link : Link β) (e : MarketEvent) (g : Generator) (s : Scene β H) :
    Generator × Scene β H :=
  if g.wired && g.isPresent then onEvent link e g s else (g, s)

/-- Lets the market trade once; gives the item. -/
def tick (link : Link β) (g : Generator) (s : Scene β H) : Item × Generator × Scene β H :=
  let traded := g.market.tick s.clock
  (traded.1, hear link (traded.2.tickEvent traded.1) { g with market := traded.2 } s)

/-- Lets the market trade some times; gives the items. -/
def tickAll (link : Link β) : Nat → Generator → Scene β H → List Item × Generator × Scene β H
  | 0, g, s => ([], g, s)
  | n + 1, g, s =>
      let one := tick link g s
      let rest := tickAll link n one.2.1 one.2.2
      (one.1 :: rest.1, rest.2)

end Publishing

section Requests

/-- Handles a control request. -/
def handle (link : Link β) (r : Request) (g : Generator) (s : Scene β H) :
    Generator × Scene β H :=
  match r with
  | .reset => ({ g with gate := g.gate.apply r }, s.count (.requestsHandled .reset))
  | .subscribe i _ =>
      hear link (g.market.currentEvent i) { g with gate := g.gate.apply r }
        (s.count (.requestsHandled .subscribe))
  | .unsubscribe _ _ =>
      ({ g with gate := g.gate.apply r }, s.count (.requestsHandled .unsubscribe))

/-- A payload as a control request. -/
def readRequest (p : Payload) : Option Request :=
  (String.fromUTF8? p).bind (fun t => (Request.parse t).toOption)

/-- Handles a payload from the bus. -/
def receive (link : Link β) (p : Payload) (g : Generator) (s : Scene β H) :
    Generator × Scene β H :=
  match readRequest p with
  | none => (g, s.count (.requestsHandled .invalid))
  | some r => handle link r g s

/-- Handles the loss of the bus session. -/
def transportError (g : Generator) : Generator := { g with gate := .empty }.startReconnect

end Requests

section Calls

/-- Lets the market's events reach the generator. -/
def wire (g : Generator) : Generator := { g with wired := true }

/-- Starts listening, connecting, trading and publishing heartbeats. -/
def start (link : Link β) (g : Generator) (s : Scene β H) : Generator × Scene β H :=
  ({ g.wire.startReconnect with
      heartbeats := g.heartbeats ++ [Timer.due s.now g.config.heartbeatInterval]
      ticks := if g.config.tickInterval = 0 then g.ticks else g.ticks ++ [s.now] },
    { s with bus := link.listen s.now s.bus })

/-- Stops everything and closes the session. -/
def shutdown (link : Link β) (g : Generator) (s : Scene β H) : Generator × Scene β H :=
  (g.stop, { s with bus := link.reset s.now s.bus })

/-- The last reference goes. -/
def release (g : Generator) : Generator := { g with released := true }.stopIfGone

end Calls

section Tasks

/-- Puts off the first instant that is due by an interval. -/
def postpone? (now interval : Nat) : List Nat → Option (List Nat)
  | [] => none
  | t :: ts =>
      if t ≤ now then some (Timer.due now interval :: ts)
      else (postpone? now interval ts).map (t :: ·)

/-- Does one piece of the work that is due: a supervisor's, a heartbeat or a tick. -/
def step? (link : Link β) (g : Generator) (s : Scene β H) : Option (Generator × Scene β H) :=
  match superviseFrom link g s [] g.supervisors with
  | some r => some r
  | none =>
      match postpone? s.now g.config.heartbeatInterval g.heartbeats with
      | some hs => some (publishHeartbeat link { g with heartbeats := hs } s)
      | none =>
          match postpone? s.now g.config.tickInterval g.ticks with
          | some ts => some (tick link { g with ticks := ts } s).2
          | none => none

/-- Instants that the generator waits for. -/
def wakes (g : Generator) : List Nat :=
  g.supervisors.filterMap Supervisor.wake? ++ g.heartbeats ++ g.ticks

end Tasks

end Generator

end QuoteBridge
