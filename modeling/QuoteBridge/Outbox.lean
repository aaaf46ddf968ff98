import QuoteBridge.Pool
import QuoteBridge.Scene

/-!
# Outboxes

An outbox writes control requests and bus messages into envelopes and sends them over a link.
Each channel has a pool of its own.  An envelope goes back to its pool whether the bus took the
payload or not.
-/

namespace QuoteBridge

/-- The two pools. -/
structure Outbox where
  requests : Pool
  updates : Pool

namespace Outbox

/-- Label of the pool for requests. -/
def requestsLabel : String := "requests"

/-- Label of the pool for updates. -/
def updatesLabel : String := "updates"

/-- An outbox whose pools grow by `batch` envelopes. -/
def create (batch : Nat) : Except PoolError Outbox := do
  let requests ← Pool.create 1 requestsLabel batch
  let updates ← Pool.create 2 updatesLabel batch
  return ⟨requests, updates⟩

def pool (o : Outbox) : Channel → Pool
  | .requests => o.requests
  | .updates => o.updates

/-- Replaces the pool of a channel. -/
def setPool (o : Outbox) (ch : Channel) (p : Pool) : Outbox :=
  match ch with
  | .requests => { o with requests := p }
  | .updates => { o with updates := p }

/-- Takes back an envelope; one of another pool is dropped. -/
def giveBack (p : Pool) (e : Envelope) : Pool :=
  match p.release e with
  | .ok p' => p'
  | .error _ => p

variable {β H : Type}

/-- Counts the envelopes of both pools. -/
def announce (o : Outbox) (s : Scene β H) : Scene β H :=
  { s with metrics := (s.metrics.notePool o.requests).notePool o.updates }

/-- Writes a payload into an envelope of a channel and sends it. -/
def transmit (link : Link β) (ch : Channel) (write : Payload → Payload) (o : Outbox)
    (s : Scene β H) : BusResult × Outbox × Scene β H :=
  let before := o.pool ch
  let loan := before.acquire
  let body := write loan.1.body
  let sent := link.send s.now ch body s.bus
  (sent.1, o.setPool ch (giveBack loan.2 { loan.1 with body := body }),
    { s with bus := sent.2, metrics := s.metrics.noteGrowth before loan.2 })

/-- Sends a control request. -/
def sendRequest (link : Link β) (r : Request) (o : Outbox) (s : Scene β H) :
    BusResult × Outbox × Scene β H :=
  transmit link .requests (fun b => b ++ r.text.toUTF8) o s

/-- Publishes a bus message. -/
def publish (link : Link β) (m : Message) (o : Outbox) (s : Scene β H) :
    BusResult × Outbox × Scene β H :=
  transmit link .updates m.encodeInto o s

end Outbox

end QuoteBridge
