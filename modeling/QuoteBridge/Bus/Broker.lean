import QuoteBridge.Bus.Link

/-!
# A broker in memory

The broker joins endpoints over the two channels.  A session remembers the listener that was
registered when it was opened, and holds the payloads that the listener has not yet received: at
most the last `capacity` ones, a power of two.

**Outages.**  When the broker goes down every session is told so and ends.  The payloads it still
holds may be handed out before that, which `Session.next?` does, or be lost.  Until the broker is up
again no session can be opened.

**Sending.**  A side sends only on its outbound channel, through an open session of its own and
while the broker is up.

**Counters.**  Outages and routed payloads are counted in 64 bits; both counts are taken not to run
over.

**Results.**
* `Session.backlog_push_of_lt`: below the capacity a session loses nothing.
* `Session.length_backlog_push_le`: it never holds more than the capacity.
-/

namespace QuoteBridge

/-- An open session: the listener that it serves, the payloads not yet received with the oldest
first, and the number of outages before it was opened. -/
structure Session where
  listener : Option Nat
  backlog : List Payload
  outagesSeen : Nat

/-- A place at the broker. -/
structure Endpoint where
  role : Role
  queue : String
  topic : String
  listener : Option Nat
  session : Option Session

/-- An endpoint without listener and session. -/
def Endpoint.create (role : Role) (queue topic : String) : Endpoint :=
  ⟨role, queue, topic, none, none⟩

/-- What a session has for its listener. -/
inductive Inbound
  | payload (p : Payload)
  | lost

/-- What a session has for its listener next, and the session behind it. -/
def Session.next? (outages : Nat) (s : Session) : Option (Inbound × Option Session) :=
  match s.backlog with
  | p :: rest => some (.payload p, some { s with backlog := rest })
  | [] => if s.outagesSeen < outages then some (.lost, none) else none

/-- Adds a payload to a session; the oldest ones go if there are too many. -/
def Session.push (capacity : Nat) (p : Payload) (s : Session) : Session :=
  { s with backlog := (s.backlog ++ [p]).drop (s.backlog.length + 1 - capacity) }

theorem Session.backlog_push_of_lt {capacity : Nat} {p : Payload} {s : Session}
    (h : s.backlog.length < capacity) :
    (s.push capacity p).backlog = s.backlog ++ [p] := by
  have hz : s.backlog.length + 1 - capacity = 0 := by omega
  simp [Session.push, hz]

theorem Session.length_backlog_push_le {capacity : Nat} {p : Payload} {s : Session}
    (h : s.backlog.length ≤ capacity) :
    (s.push capacity p).backlog.length ≤ capacity := by
  simp only [Session.push, List.length_drop, List.length_append, List.length_singleton]
  omega

/-- Whether a payload on a channel pushes an older one out of the session of an endpoint. -/
def Endpoint.lags (capacity : Nat) (ch : Channel) (e : Endpoint) : Bool :=
  e.role.inbound = ch &&
    match e.session with
    | none => false
    | some s => capacity ≤ s.backlog.length

/-- Puts a payload into the session of an endpoint that listens to a channel. -/
def Endpoint.offer (capacity : Nat) (ch : Channel) (p : Payload) (e : Endpoint) : Endpoint :=
  if e.role.inbound = ch then { e with session := e.session.map (Session.push capacity p) }
  else e

/-- The broker with endpoints named by `κ`.  `lagged` counts the payloads that sessions lost
because they held too many. -/
structure Broker (κ : Type) where
  capacity : Nat
  declared : List String
  available : Bool
  outages : Nat
  routed : Nat
  lagged : Nat
  endpoints : List (κ × Endpoint)

namespace Broker

/-- The least power of two that is not below a number; one for zero. -/
def powerOfTwo (n : Nat) : Nat :=
  if 1 <<< Nat.log2 n < n then 1 <<< (Nat.log2 n + 1) else 1 <<< Nat.log2 n

theorem le_powerOfTwo (n : Nat) : n ≤ powerOfTwo n := by
  simp only [powerOfTwo, Nat.one_shiftLeft]
  split
  · exact Nat.le_of_lt Nat.lt_log2_self
  · omega

/-- Payloads that a session holds if nothing else is asked for. -/
def defaultCapacity : Nat := 1000

variable {κ : Type}

/-- A broker without endpoints and destinations. -/
def create (capacity : Nat) : Broker κ := ⟨powerOfTwo capacity, [], true, 0, 0, 0, []⟩

/-- Makes a destination known. -/
def declare (name : String) (b : Broker κ) : Broker κ :=
  { b with declared := name :: b.declared }

/-- Whether a destination is known. -/
def isDeclared (name : String) (b : Broker κ) : Bool := b.declared.contains name

/-- Brings the broker up or takes it down. -/
def setAvailable (value : Bool) (b : Broker κ) : Broker κ :=
  { b with
    available := value
    outages := if b.available && !value then b.outages + 1 else b.outages }

/-- Changes every endpoint. -/
def mapEndpoints (f : Endpoint → Endpoint) (b : Broker κ) : Broker κ :=
  { b with endpoints := b.endpoints.map (fun e => (e.1, f e.2)) }

section Endpoints

variable [DecidableEq κ]

/-- The endpoint of a name. -/
def endpoint? (k : κ) (b : Broker κ) : Option Endpoint :=
  (b.endpoints.find? (fun e => e.1 = k)).map (·.2)

/-- Changes one endpoint. -/
def modifyEndpoint (k : κ) (f : Endpoint → Endpoint) (b : Broker κ) : Broker κ :=
  { b with endpoints := b.endpoints.map (fun e => if e.1 = k then (e.1, f e.2) else e) }

/-- Takes an endpoint away, and its session with it. -/
def leave (k : κ) (b : Broker κ) : Broker κ :=
  { b with endpoints := b.endpoints.filter (fun e => e.1 ≠ k) }

/-- Adds an endpoint in place of one of the same name. -/
def join (k : κ) (e : Endpoint) (b : Broker κ) : Broker κ :=
  { b.leave k with endpoints := (b.leave k).endpoints ++ [(k, e)] }

/-- Whether an endpoint has an open session. -/
def isConnected (k : κ) (b : Broker κ) : Bool :=
  match b.endpoint? k with
  | some e => e.session.isSome
  | none => false

/-- Registers the listener for sessions to come. -/
def listen (k : κ) (listener : Nat) (b : Broker κ) : Broker κ :=
  b.modifyEndpoint k (fun e => { e with listener := some listener })

/-- Closes the session of an endpoint. -/
def reset (k : κ) (b : Broker κ) : Broker κ :=
  b.modifyEndpoint k (fun e => { e with session := none })

/-- The first destination of an endpoint that is not known. -/
def missing? (e : Endpoint) (b : Broker κ) : Option String :=
  [e.queue, e.topic].find? (fun n => !b.isDeclared n)

/-- Opens a session in place of an older one. -/
def connect (k : κ) (b : Broker κ) : BusResult × Broker κ :=
  match b.endpoint? k with
  | none => (.error .notReady, b)
  | some e =>
      if b.available then
        match b.missing? e with
        | some n => (.error (.invalidEndpoint n), b)
        | none =>
            (.ok (), b.modifyEndpoint k (fun e =>
              { e with session := some ⟨e.listener, [], b.outages⟩ }))
      else (.error (.unreachable "in-memory broker is down"), b)

/-- Hands a payload to every session that listens to its channel. -/
def route (ch : Channel) (p : Payload) (b : Broker κ) : BusResult × Broker κ :=
  if b.available then
    (.ok (), { b.mapEndpoints (Endpoint.offer b.capacity ch p) with
      routed := b.routed + 1
      lagged := b.lagged + b.endpoints.countP (fun e => e.2.lags b.capacity ch) })
  else (.error .notReady, b)

/-- Sends a payload from an endpoint. -/
def send (k : κ) (ch : Channel) (p : Payload) (b : Broker κ) : BusResult × Broker κ :=
  match b.endpoint? k with
  | none => (.error .notReady, b)
  | some e =>
      if ch = e.role.outbound then
        if e.session.isSome then b.route ch p else (.error .notReady, b)
      else (.error (.failure (e.role.label ++ " endpoint cannot send on " ++ ch.name)), b)

/-- Puts back an endpoint's session. -/
def setSession (k : κ) (s : Option Session) (b : Broker κ) : Broker κ :=
  b.modifyEndpoint k (fun e => { e with session := s })

/-- The first of some endpoints whose session has something for its listener. -/
def pendingAmong? (outages : Nat) :
    List (κ × Endpoint) → Option (κ × Option Nat × Inbound × Option Session)
  | [] => none
  | (k, e) :: es =>
      match e.session with
      | none => pendingAmong? outages es
      | some s =>
          match s.next? outages with
          | some (i, s') => some (k, s.listener, i, s')
          | none => pendingAmong? outages es

/-- Takes out what the first such session has for its listener. -/
def next? (b : Broker κ) : Option ((κ × Option Nat × Inbound) × Broker κ) :=
  (pendingAmong? b.outages b.endpoints).map
    (fun r => ((r.1, r.2.1, r.2.2.1), b.setSession r.1 r.2.2.2))

/-- Access of an endpoint whose listener has the given number. -/
def link (k : κ) (listener : Nat) : Link (Broker κ) where
  connect _ b := let r := b.connect k; (⟨none, r.1⟩, r.2)
  reset _ b := b.reset k
  send _ ch p b := b.send k ch p
  listen _ b := b.listen k listener

end Endpoints

end Broker

end QuoteBridge
