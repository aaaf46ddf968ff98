/-!
# Channels of the bus

Two channels join the two sides: requests go to the generator, updates to the adapter.
-/

namespace QuoteBridge

/-- One of the two channels. -/
inductive Channel
  | requests
  | updates
  deriving DecidableEq, Repr

def Channel.name : Channel → String
  | .requests => "Requests"
  | .updates => "Updates"

/-- The side of the bus that an endpoint serves. -/
inductive Role
  | adapter
  | generator
  deriving DecidableEq, Repr

namespace Role

/-- The channel that a side listens to. -/
def inbound : Role → Channel
  | .adapter => .updates
  | .generator => .requests

/-- The channel that a side sends on. -/
def outbound : Role → Channel
  | .adapter => .requests
  | .generator => .updates

/-- Name of a side. -/
def label : Role → String
  | .adapter => "adapter"
  | .generator => "generator"

theorem outbound_ne_inbound (r : Role) : r.outbound ≠ r.inbound := by
  cases r <;> decide

end Role

end QuoteBridge
