import QuoteBridge.Bus.Broker

/-!
# An exchange of inboxes

An exchange is a broker whose endpoints are named by texts and whose listeners are inboxes.  An
inbox collects payloads and session losses until it goes away; what comes for an inbox that is
gone is lost.
-/

namespace QuoteBridge

/-- A listener: its number, whether it is still there, and what it has received. -/
structure Inbox where
  number : Nat
  present : Bool
  messages : Array Payload
  errors : Array BusError

/-- A broker with an inbox for each endpoint that listens, and the number of inboxes so far. -/
structure Exchange where
  broker : Broker String
  inboxes : List (String × Inbox)
  made : Nat

namespace Exchange

/-- An exchange without endpoints. -/
def create (capacity : Nat) : Exchange := ⟨.create capacity, [], 0⟩

/-- The inbox of an endpoint. -/
def inbox? (name : String) (x : Exchange) : Option Inbox :=
  (x.inboxes.find? (fun e => e.1 = name)).map (·.2)

/-- Puts an inbox in place of an older one of the same endpoint. -/
def setInbox (name : String) (i : Inbox) (x : Exchange) : Exchange :=
  { x with inboxes := x.inboxes.filter (fun e => e.1 ≠ name) ++ [(name, i)] }

/-- Changes the inbox of an endpoint. -/
def modifyInbox (name : String) (f : Inbox → Inbox) (x : Exchange) : Exchange :=
  { x with inboxes := x.inboxes.map (fun e => if e.1 = name then (e.1, f e.2) else e) }

/-- Adds an endpoint, in place of one of the same name. -/
def join (name : String) (e : Endpoint) (x : Exchange) : Exchange :=
  { x with
    broker := x.broker.join name e
    inboxes := x.inboxes.filter (fun i => i.1 ≠ name) }

/-- Takes an endpoint away. -/
def leave (name : String) (x : Exchange) : Exchange :=
  { x with
    broker := x.broker.leave name
    inboxes := x.inboxes.filter (fun i => i.1 ≠ name) }

/-- Registers the inbox of an endpoint, which is made if it is not there. -/
def listen (name : String) (x : Exchange) : Exchange :=
  match (x.inbox? name).filter (·.present) with
  | some i => { x with broker := x.broker.listen name i.number }
  | none =>
      let old := x.inbox? name
      let fresh : Inbox :=
        ⟨x.made, true, (old.map (·.messages)).getD #[], (old.map (·.errors)).getD #[]⟩
      { x.setInbox name fresh with
        broker := x.broker.listen name x.made
        made := x.made + 1 }

/-- Lets the inbox of an endpoint go away. -/
def dropInbox (name : String) (x : Exchange) : Exchange :=
  x.modifyInbox name (fun i => { i with present := false })

/-- Hands over what a session has for its listener. -/
def hand (listener : Option Nat) (what : Inbound) (i : Inbox) : Inbox :=
  if i.present ∧ listener = some i.number then
    match what with
    | .payload p => { i with messages := i.messages.push p }
    | .lost => { i with errors := i.errors.push .connectionLost }
  else i

/-- Hands over at most `fuel` payloads and losses. -/
def handOver : Nat → Exchange → Exchange
  | 0, x => x
  | fuel + 1, x =>
      match x.broker.next? with
      | none => x
      | some ((name, listener, what), b) =>
          handOver fuel ({ x with broker := b }.modifyInbox name (hand listener what))

/-- Bound on what the sessions hold: their payloads, and one loss for each. -/
def pendingCount (x : Exchange) : Nat :=
  x.broker.endpoints.foldr (fun e n => (e.2.session.map (·.backlog.length)).getD 0 + 1 + n) 0

/-- Hands over everything. -/
def settle (x : Exchange) : Exchange := handOver x.pendingCount x

/-- Sends a payload from an endpoint. -/
def send (name : String) (ch : Channel) (p : Payload) (x : Exchange) : BusResult × Exchange :=
  let r := x.broker.send name ch p
  (r.1, { x with broker := r.2 })

/-- Sends payloads in a row; the result is that of the last one. -/
def sendAll (name : String) (ch : Channel) :
    BusResult → List Payload → Exchange → BusResult × Exchange
  | r, [], x => (r, x)
  | _, p :: ps, x =>
      let sent := x.send name ch p
      sendAll name ch sent.1 ps sent.2

/-- Opens a session. -/
def connect (name : String) (x : Exchange) : BusResult × Exchange :=
  let r := x.broker.connect name
  (r.1, { x with broker := r.2 })

end Exchange

end QuoteBridge
