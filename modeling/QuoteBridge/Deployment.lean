import QuoteBridge.Adapter
import QuoteBridge.Bus.Broker
import QuoteBridge.Bus.Recorder
import QuoteBridge.Generator
import QuoteBridge.Timeline

/-!
# Deployments

A deployment is an adapter and generators on one bus, in virtual time.

**Order of work.**  The work of one instant may be done in any order.  Here what the bus has for a
party comes first, then supervisors and timers, the adapter's before those of the generators, and
then dispatch rounds.  Dispatch rounds can be held back.
-/

namespace QuoteBridge

/-- Someone on the bus. -/
inductive Party
  | adapter
  | generator (name : String)
  deriving DecidableEq, Repr

/-- A bus that parties can be on: their access to it, what it has for a party next, and how a
party leaves. -/
class Carrier (β : Type) where
  link : Party → Link β
  next? : β → Option ((Party × Inbound) × β)
  leave : Party → β → β

/-- A recorder never has anything for a party. -/
instance : Carrier Recorder where
  link _ := Recorder.link
  next? _ := none
  leave _ r := r

/-- A party at a broker is its own only listener. -/
instance : Carrier (Broker Party) where
  link p := Broker.link p 0
  next? b := b.next?.map (fun r => ((r.1.1, r.1.2.2), r.2))
  leave := Broker.leave

/-- An adapter and generators on a bus of type `β`. -/
structure Deployment (β : Type) where
  scene : Scene β String
  adapter : Option (Adapter String)
  generators : List (String × Generator)
  held : Bool

namespace Deployment

variable {β : Type}

/-- A bus without parties. -/
def create (clock : Nat) (bus : β) : Deployment β := ⟨.initial clock bus, none, [], false⟩

/-- Changes the bus. -/
def mapBus (f : β → β) (d : Deployment β) : Deployment β :=
  { d with scene := { d.scene with bus := f d.scene.bus } }

/-- Sets the wall clock. -/
def setClock (seconds : Nat) (d : Deployment β) : Deployment β :=
  { d with scene := { d.scene with clock := seconds } }

section Parties

def addAdapter (config : AdapterConfig) (d : Deployment β) : Except PoolError (Deployment β) := do
  let a ← Adapter.create config
  return { d with adapter := some a, scene := a.outbox.announce d.scene }

def addGenerator (name : String) (config : GeneratorConfig) (d : Deployment β) :
    Except PoolError (Deployment β) := do
  let g ← Generator.create config
  return { d with
    generators := d.generators ++ [(name, g)]
    scene := g.outbox.announce d.scene }

def generator? (name : String) (d : Deployment β) : Option Generator :=
  (d.generators.find? (fun e => e.1 = name)).map (·.2)

/-- Lets the adapter act. -/
def withAdapter (f : Adapter String → Scene β String → Adapter String × Scene β String)
    (d : Deployment β) : Deployment β :=
  match d.adapter with
  | none => d
  | some a => { d with adapter := some (f a d.scene).1, scene := (f a d.scene).2 }

/-- Puts a generator in place of the one of the same name. -/
def setGenerator (name : String) (g : Generator) (d : Deployment β) : Deployment β :=
  { d with generators := d.generators.map (fun e => if e.1 = name then (e.1, g) else e) }

/-- Lets a generator act. -/
def withGenerator (name : String)
    (f : Generator → Scene β String → Generator × Scene β String) (d : Deployment β) :
    Deployment β :=
  match d.generator? name with
  | none => d
  | some g =>
      let r := f g d.scene
      { d.setGenerator name r.1 with scene := r.2 }

end Parties

section Work

variable [Carrier β]

/-- Does a piece of the adapter's work. -/
def stepAdapter? (d : Deployment β) : Option (Deployment β) :=
  d.adapter.bind (fun a =>
    (a.step? (Carrier.link .adapter) d.scene).map (fun r =>
      { d with adapter := some r.1, scene := r.2 }))

/-- Does a piece of work of the first of the given generators that has some; `done` are those
before it. -/
def stepGenerators? (s : Scene β String) (done : List (String × Generator)) :
    List (String × Generator) → Option (List (String × Generator) × Scene β String)
  | [] => none
  | (name, g) :: gs =>
      match g.step? (Carrier.link (.generator name)) s with
      | some r => some (done ++ (name, r.1) :: gs, r.2)
      | none => stepGenerators? s (done ++ [(name, g)]) gs

/-- Runs a dispatch round. -/
def stepRound? (d : Deployment β) : Option (Deployment β) :=
  match d.adapter with
  | none => none
  | some a =>
      if a.rounds = 0 ∨ d.held then none
      else some (d.withAdapter (Adapter.dispatchRound (Carrier.link .adapter)))

/-- Gives a party what the bus has for it. -/
def receive (p : Party) (what : Inbound) (d : Deployment β) : Deployment β :=
  match p, what with
  | .adapter, .payload payload => d.withAdapter (Adapter.receive payload)
  | .adapter, .lost => d.withAdapter Adapter.transportError
  | .generator name, .payload payload =>
      d.withGenerator name (Generator.receive (Carrier.link p) payload)
  | .generator name, .lost => d.withGenerator name (fun g s => (g.transportError, s))

/-- Takes what the bus has for a party. -/
def stepBus? (d : Deployment β) : Option (Deployment β) :=
  (Carrier.next? d.scene.bus).map (fun r =>
    { d with scene := { d.scene with bus := r.2 } }.receive r.1.1 r.1.2)

/-- Does one piece of the work that is left at this instant. -/
def step? (d : Deployment β) : Option (Deployment β) :=
  match d.stepBus? with
  | some d' => some d'
  | none =>
      match d.stepAdapter? with
      | some d' => some d'
      | none =>
          match stepGenerators? d.scene [] d.generators with
          | some r => some { d with generators := r.1, scene := r.2 }
          | none => d.stepRound?

/-- Instants that some party waits for. -/
def wakes (d : Deployment β) : List Nat :=
  (d.adapter.map Adapter.wakes).getD [] ++ d.generators.flatMap (fun e => e.2.wakes)

/-- The deployment in virtual time. -/
def timeline : Timeline (Deployment β) where
  now d := d.scene.now
  setNow t d := { d with scene := { d.scene with now := t } }
  step? := step?
  nextWake? d := Timeline.earliest d.wakes

/-- Finishes the work of this instant. -/
def settle (d : Deployment β) : Deployment β := timeline.settle d

/-- Lets milliseconds pass. -/
def sleep (span : Nat) (d : Deployment β) : Deployment β := timeline.sleep span d

end Work

section AdapterCalls

variable [Carrier β]

def startAdapter (d : Deployment β) : Deployment β :=
  d.withAdapter (Adapter.start (Carrier.link .adapter))

def shutdownAdapter (d : Deployment β) : Deployment β :=
  d.withAdapter (Adapter.shutdown (Carrier.link .adapter))

def releaseAdapter (d : Deployment β) : Deployment β :=
  d.withAdapter (fun a s => (a.release, s))

def subscribe (item handle : String) (d : Deployment β) :
    Except SubscriptionError SubscriptionId × Deployment β :=
  match d.adapter with
  | none => (.error (.notSubscribed item), d)
  | some a =>
      let r := a.subscribe item handle d.scene
      (r.1, { d with adapter := some r.2.1, scene := r.2.2 })

/-- Ends the subscription to an item. -/
def unsubscribe (item : String) (d : Deployment β) :
    Except SubscriptionError Unit × Deployment β :=
  match d.adapter with
  | none => (.error (.notSubscribed item), d)
  | some a =>
      let r := a.unsubscribe item
      (r.1, { d with adapter := some r.2 })

/-- Holds dispatch rounds back, or lets them run. -/
def hold (value : Bool) (d : Deployment β) : Deployment β := { d with held := value }

/-- Gives the adapter a payload, if something holds it. -/
def adapterReceives (p : Payload) (d : Deployment β) : Deployment β :=
  d.withAdapter (fun a s => if a.isPresent then a.receive p s else (a, s))

/-- Tells the adapter that its session is lost, if something holds it. -/
def adapterLoses (d : Deployment β) : Deployment β :=
  d.withAdapter (fun a s => if a.isPresent then a.transportError s else (a, s))

end AdapterCalls

section GeneratorCalls

variable [Carrier β]

def startGenerator (name : String) (d : Deployment β) : Deployment β :=
  d.withGenerator name (Generator.start (Carrier.link (.generator name)))

def shutdownGenerator (name : String) (d : Deployment β) : Deployment β :=
  d.withGenerator name (Generator.shutdown (Carrier.link (.generator name)))

/-- Releases a generator but keeps its market. -/
def releaseGenerator (name : String) (d : Deployment β) : Deployment β :=
  d.withGenerator name (fun g s => (g.release, s))

/-- Takes a generator away. -/
def removeGenerator (name : String) (d : Deployment β) : Deployment β :=
  { d.mapBus (Carrier.leave (.generator name)) with
    generators := d.generators.filter (fun e => e.1 ≠ name) }

/-- Lets the market of a generator trade some times in a row. -/
def tickGenerator (name : String) (n : Nat) (d : Deployment β) : List Item × Deployment β :=
  match d.generator? name with
  | none => ([], d)
  | some g =>
      let r := g.tickAll (Carrier.link (.generator name)) n d.scene
      (r.1, { d.setGenerator name r.2.1 with scene := r.2.2 })

/-- Gives a generator a payload, if something holds it. -/
def generatorReceives (name : String) (p : Payload) (d : Deployment β) : Deployment β :=
  d.withGenerator name (fun g s =>
    if g.isPresent then g.receive (Carrier.link (.generator name)) p s else (g, s))

/-- Tells a generator an event, if something holds it. -/
def generatorHears (name : String) (e : MarketEvent) (d : Deployment β) : Deployment β :=
  d.withGenerator name (fun g s =>
    if g.isPresent then g.onEvent (Carrier.link (.generator name)) e s else (g, s))

/-- Tells a generator that its session is lost, if something holds it. -/
def generatorLoses (name : String) (d : Deployment β) : Deployment β :=
  d.withGenerator name (fun g s => if g.isPresent then (g.transportError, s) else (g, s))

end GeneratorCalls

section Brokers

/-- Adds an endpoint for a party. -/
def join (p : Party) (role : Role) (queue topic : String) (d : Deployment (Broker Party)) :
    Deployment (Broker Party) :=
  d.mapBus (Broker.join p (.create role queue topic))

end Brokers

/-- Number of snapshots that the consumer was given. -/
def snapshots (d : Deployment β) : Nat := d.scene.deliveries.toList.countP (·.isSnapshot)

/-- Number of other updates that the consumer was given. -/
def deltas (d : Deployment β) : Nat := d.scene.deliveries.toList.countP (fun x => !x.isSnapshot)

end Deployment

end QuoteBridge
