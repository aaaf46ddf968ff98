import QuoteBridge.Bus.Channel

/-!
# Links to a bus

A link is one side's access to a bus of type `β`: it opens and closes a session, sends payloads
and registers the side as the receiver of what comes in.  Every operation is told the time.
-/

namespace QuoteBridge

/-- Octets that travel over the bus. -/
abbrev Payload := ByteArray

/-- Why the bus did not do what it was asked for. -/
inductive BusError
  | unreachable (reason : String)
  | invalidEndpoint (name : String)
  | notReady
  | failure (reason : String)
  | connectionLost
  | encode (reason : String)
  deriving DecidableEq, Repr

def BusError.message : BusError → String
  | .unreachable r => "Bus not reachable: " ++ r
  | .invalidEndpoint n => "Destination name not valid: " ++ n
  | .notReady => "Transport session not ready"
  | .failure r => "Send failed: " ++ r
  | .connectionLost => "Connection lost"
  | .encode r => "Failed to encode outbound message: " ++ r

/-- Success, or a bus error. -/
abbrev BusResult := Except BusError Unit

/-- An attempt to open a session: its result, and how long it takes if not at once. -/
structure Dial where
  delay : Option Nat
  result : BusResult

/-- Access to a bus.  The number is the time. -/
structure Link (β : Type) where
  connect : Nat → β → Dial × β
  reset : Nat → β → β
  send : Nat → Channel → Payload → β → BusResult × β
  listen : Nat → β → β

end QuoteBridge
