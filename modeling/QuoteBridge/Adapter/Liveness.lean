import QuoteBridge.Request

/-!
# Liveness of the producer

Whether a bus session is open and whether a producer run is known are two things: an open session
with no producer behind it is a quiet feed.

**Rules.**  A message of the known run moves the stall counter.  A message of any other run makes
that run the known one and sets the counter back.  Hearing a message also means that the session
is open.
-/

namespace QuoteBridge

/-- What is known about the bus and the producer behind it. -/
structure Liveness where
  busConnected : Bool
  epoch : Option Epoch
  stallCounter : UInt64
  deriving DecidableEq, Repr

inductive FeedStatus
  | down
  | idle
  | up
  deriving DecidableEq, Repr

/-- What a message tells about its producer run. -/
inductive Observation
  | current
  | new (previous : Option Epoch)
  deriving DecidableEq, Repr

def FeedStatus.name : FeedStatus → String
  | .down => "down"
  | .idle => "idle"
  | .up => "up"

namespace Liveness

/-- Nothing is known. -/
def initial : Liveness := ⟨false, none, 0⟩

def status (l : Liveness) : FeedStatus :=
  match l.busConnected, l.epoch with
  | false, _ => .down
  | true, none => .idle
  | true, some _ => .up

/-- Whether a producer run is known. -/
def isFeedUp (l : Liveness) : Bool := l.epoch.isSome

/-- Accounts for a message of a producer run. -/
def observe (e : Epoch) (l : Liveness) : Observation × Liveness :=
  if l.epoch = some e then
    (.current, { l with busConnected := true, stallCounter := l.stallCounter + 1 })
  else (.new l.epoch, ⟨true, some e, 0⟩)

/-- Records whether a session is open. -/
def setConnected (value : Bool) (l : Liveness) : Liveness := { l with busConnected := value }

/-- Forgets the producer run. -/
def clearEpoch (l : Liveness) : Liveness := { l with epoch := none }

end Liveness

end QuoteBridge
