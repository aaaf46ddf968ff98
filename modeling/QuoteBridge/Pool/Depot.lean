import QuoteBridge.Pool
import QuoteBridge.SortedMap

/-!
# Depots

A depot keeps several pools by name, and the envelopes on loan from them under slips.

**Numbers.**  The pools of a depot are numbered from one in the order in which they were made.

**Losses.**  A pool that refuses an envelope does not give it back to the borrower, so the envelope
is lost; so is one whose slip is used again.
-/

namespace QuoteBridge

/-- Pools by name, envelopes on loan by slip, and the number of pools made so far. -/
structure Depot where
  pools : SortedMap String Pool
  loans : SortedMap String Envelope
  made : Nat
  metrics : Metrics

namespace Depot

/-- A depot without pools. -/
def empty : Depot := ⟨.empty, .empty, 0, .zero⟩

/-- Makes a pool under a name; an earlier one of this name goes. -/
def makePool (name label : String) (batch : Nat) (d : Depot) : Except PoolError Pool × Depot :=
  match Pool.create (d.made + 1) label batch with
  | .error e => (.error e, d)
  | .ok p =>
      (.ok p,
        { d with
          pools := d.pools.insert name p
          made := d.made + 1
          metrics := d.metrics.notePool p })

/-- Borrows an envelope from a pool under a slip. -/
def acquire (name slip : String) (d : Depot) : Option Envelope × Depot :=
  match d.pools.get? name with
  | none => (none, d)
  | some p =>
      let lent := p.acquire
      (some lent.1,
        { d with
          pools := d.pools.insert name lent.2
          loans := d.loans.insert slip lent.1
          metrics := d.metrics.noteGrowth p lent.2 })

/-- Writes behind the body of an envelope on loan. -/
def write (slip : String) (text : Payload) (d : Depot) : Option Envelope × Depot :=
  match d.loans.get? slip with
  | none => (none, d)
  | some e =>
      let e := { e with body := e.body ++ text }
      (some e, { d with loans := d.loans.insert slip e })

/-- Brings an envelope on loan to a pool. -/
def release (name slip : String) (d : Depot) : Option (Except PoolError Unit) × Depot :=
  match d.pools.get? name, d.loans.get? slip with
  | some p, some e =>
      match p.release e with
      | .error f => (some (.error f), { d with loans := d.loans.erase slip })
      | .ok p' =>
          (some (.ok ()),
            { d with pools := d.pools.insert name p', loans := d.loans.erase slip })
  | _, _ => (none, d)

end Depot

end QuoteBridge
