import QuoteBridge.Bus.Channel

/-!
# Metrics

Counters of what the two sides do.  A counter is touched when something was added to it, be it
nothing; only touched counters are remembered.  A counter has 64 bits and is taken not to run over.

**Results.**
* `count_bump_self`, `count_bump_of_ne`: adding to one counter changes no other.
-/

namespace QuoteBridge

/-- Kind of a delivered update. -/
inductive DeliveryKind
  | snapshot
  | delta
  | inactive
  deriving DecidableEq, Repr

/-- Why an inbound update was dropped. -/
inductive DiscardReason
  | unsubscribed
  | superseded
  | newEpoch
  | malformed
  deriving DecidableEq, Repr

/-- Why the feed went down. -/
inductive DownCause
  | bus
  | producer
  deriving DecidableEq, Repr

/-- What a payload on the request channel turned out to be. -/
inductive HandledCommand
  | reset
  | subscribe
  | unsubscribe
  | invalid
  deriving DecidableEq, Repr

/-- Something that is counted. -/
inductive Counter
  | attempts (side : Role) (connected : Bool)
  | envelopes (pool : String)
  | heartbeatsReceived
  | epochChanges
  | delivered (kind : DeliveryKind)
  | discarded (reason : DiscardReason)
  | requestsDispatched
  | requestsFailed
  | feedDown (cause : DownCause)
  | updatesPublished
  | heartbeatsPublished
  | requestsHandled (command : HandledCommand)
  deriving DecidableEq, Repr

/-- The touched counters with their values. -/
structure Metrics where
  counts : List (Counter × Nat)
  deriving DecidableEq, Repr, Inhabited

namespace Metrics

/-- No counter is touched. -/
def zero : Metrics := ⟨[]⟩

/-- Adds to one entry, which is made if need be. -/
def add (c : Counter) (n : Nat) : List (Counter × Nat) → List (Counter × Nat)
  | [] => [(c, n)]
  | e :: es => if e.1 = c then (c, e.2 + n) :: es else e :: add c n es

/-- Value of the first entry of a counter. -/
def find (c : Counter) : List (Counter × Nat) → Nat
  | [] => 0
  | e :: es => if e.1 = c then e.2 else find c es

def bumpBy (c : Counter) (n : Nat) (m : Metrics) : Metrics := ⟨add c n m.counts⟩

/-- Adds one to a counter. -/
def bump (c : Counter) (m : Metrics) : Metrics := m.bumpBy c 1

/-- Value of a counter. -/
def count (m : Metrics) (c : Counter) : Nat := find c m.counts

theorem find_add_self (c : Counter) (n : Nat) :
    ∀ es : List (Counter × Nat), find c (add c n es) = find c es + n
  | [] => by simp [add, find]
  | e :: es => by
      by_cases h : e.1 = c
      · simp [add, find, h]
      · simp [add, find, h, find_add_self c n es]

theorem find_add_of_ne {c d : Counter} (h : d ≠ c) (n : Nat) :
    ∀ es : List (Counter × Nat), find d (add c n es) = find d es
  | [] => by simp [add, find, Ne.symm h]
  | e :: es => by
      by_cases hc : e.1 = c
      · simp [add, find, hc, Ne.symm h]
      · by_cases hd : e.1 = d
        · simp [add, find, hd, h]
        · simp [add, find, hc, hd, find_add_of_ne h n es]

@[simp] theorem count_bumpBy_self (m : Metrics) (c : Counter) (n : Nat) :
    (m.bumpBy c n).count c = m.count c + n :=
  find_add_self c n m.counts

theorem count_bumpBy_of_ne (m : Metrics) {c d : Counter} (h : d ≠ c) (n : Nat) :
    (m.bumpBy c n).count d = m.count d :=
  find_add_of_ne h n m.counts

@[simp] theorem count_bump_self (m : Metrics) (c : Counter) :
    (m.bump c).count c = m.count c + 1 :=
  count_bumpBy_self m c 1

theorem count_bump_of_ne (m : Metrics) {c d : Counter} (h : d ≠ c) :
    (m.bump c).count d = m.count d :=
  count_bumpBy_of_ne m h 1

end Metrics

end QuoteBridge
