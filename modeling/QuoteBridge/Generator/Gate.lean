import QuoteBridge.Request
import QuoteBridge.SortedMap

/-!
# The gate

The gate is the producer's view of the consumer's subscriptions.  It decides which events of the
market reach the bus: nothing for an item without subscription, nothing for a subscription that
still waits for its snapshot, the first snapshot as such, and everything after it as a change.

**Results.**
* `tenure?_subscribe_self`, `tenure?_subscribe_of_ne`: a subscription changes one item, which
  waits for its snapshot again.
-/

namespace QuoteBridge

/-- A subscription as the producer knows it. -/
structure Tenure where
  id : SubscriptionId
  snapshotSent : Bool
  deriving DecidableEq, Repr

/-- The producer's view of the subscriptions. -/
structure Gate where
  tenures : SortedMap Item Tenure

/-- What to do with an event. -/
inductive GateDecision
  | drop
  | publish (id : SubscriptionId) (isSnapshot : Bool)
  deriving DecidableEq, Repr

/-- What became of a request to end a subscription. -/
inductive Removal
  | removed
  | notSubscribed
  | mismatch (current : SubscriptionId)
  deriving DecidableEq, Repr

namespace Gate

/-- No subscriptions. -/
def empty : Gate := ⟨.empty⟩

/-- The subscription of an item. -/
def tenure? (g : Gate) (i : Item) : Option Tenure := g.tenures.get? i

/-- Registers an item; gives the id that it replaces. -/
def subscribe (i : Item) (id : SubscriptionId) (g : Gate) : Option SubscriptionId × Gate :=
  ((g.tenure? i).map (·.id), ⟨g.tenures.insert i ⟨id, false⟩⟩)

/-- Ends a subscription if the id is the registered one. -/
def unsubscribe (i : Item) (id : SubscriptionId) (g : Gate) : Removal × Gate :=
  match g.tenure? i with
  | none => (.notSubscribed, g)
  | some t => if t.id = id then (.removed, ⟨g.tenures.erase i⟩) else (.mismatch t.id, g)

/-- Decides about an event. -/
def pass (i : Item) (isSnapshot : Bool) (g : Gate) : GateDecision × Gate :=
  match g.tenure? i with
  | none => (.drop, g)
  | some t =>
      if t.snapshotSent then (.publish t.id false, g)
      else if isSnapshot then (.publish t.id true, ⟨g.tenures.insert i ⟨t.id, true⟩⟩)
      else (.drop, g)

/-- Applies a control request. -/
def apply (r : Request) (g : Gate) : Gate :=
  match r with
  | .reset => empty
  | .subscribe i id => (g.subscribe i id).2
  | .unsubscribe i id => (g.unsubscribe i id).2

/-- Whether an item has a subscription. -/
def contains (g : Gate) (i : Item) : Bool := g.tenures.contains i

/-- Number of subscriptions. -/
def size (g : Gate) : Nat := g.tenures.size

/-- Items with a subscription, by number. -/
def items (g : Gate) : List Item := Item.all.filter g.contains

@[simp] theorem tenure?_empty (i : Item) : empty.tenure? i = none := rfl

@[simp] theorem tenure?_subscribe_self (g : Gate) (i : Item) (id : SubscriptionId) :
    (g.subscribe i id).2.tenure? i = some ⟨id, false⟩ := by
  simp [subscribe, tenure?]

theorem tenure?_subscribe_of_ne (g : Gate) {i j : Item} (id : SubscriptionId) (h : j ≠ i) :
    (g.subscribe i id).2.tenure? j = g.tenure? j := by
  simp [subscribe, tenure?, SortedMap.get?_insert_of_ne, h]

end Gate

end QuoteBridge
