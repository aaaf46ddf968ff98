import QuoteBridge.Message
import QuoteBridge.Metrics

/-!
# Scenes

A scene is what both sides of the feed share: the time, the wall clock, the bus, the metrics, and
the adapter's journal.

**Journal.**  The adapter notes the subscriptions that it registers, the messages that it hears
and its calls of the consumer, in the order in which they happen.
-/

namespace QuoteBridge

/-- One call of the consumer, on behalf of the subscription of an item. -/
structure Delivery (H : Type) where
  time : Nat
  item : Item
  id : SubscriptionId
  kind : DeliveryKind
  handle : H
  fields : Fields
  isSnapshot : Bool

/-- An entry of the adapter's journal.  A heard message may bring a new producer run. -/
inductive Note (H : Type)
  | subscribed (item : Item) (id : SubscriptionId)
  | heard (time : Nat) (epoch : Epoch) (isNew : Bool)
  | called (call : Delivery H)

/-- The call of the consumer that an entry tells of. -/
def Note.call? {H : Type} : Note H → Option (Delivery H)
  | .called c => some c
  | _ => none

/-- Shared surroundings with a bus of type `β` and consumer handles of type `H`. -/
structure Scene (β H : Type) where
  now : Nat
  clock : Nat
  bus : β
  metrics : Metrics
  journal : Array (Note H)

namespace Scene

variable {β H : Type}

/-- The surroundings at time zero. -/
def initial (clock : Nat) (bus : β) : Scene β H := ⟨0, clock, bus, .zero, #[]⟩

/-- Adds one to a counter. -/
def count (c : Counter) (s : Scene β H) : Scene β H := { s with metrics := s.metrics.bump c }

/-- Adds an entry to the journal. -/
def note (n : Note H) (s : Scene β H) : Scene β H := { s with journal := s.journal.push n }

/-- Gives an update to the consumer on behalf of the subscription of an item. -/
def deliver (item : Item) (id : SubscriptionId) (kind : DeliveryKind) (handle : H)
    (fields : Fields) (isSnapshot : Bool) (s : Scene β H) : Scene β H :=
  s.note (.called ⟨s.now, item, id, kind, handle, fields, isSnapshot⟩)

/-- The calls of the consumer so far. -/
def deliveries (s : Scene β H) : Array (Delivery H) := s.journal.filterMap Note.call?

end Scene

end QuoteBridge
