import QuoteBridge.Bus.Link
import QuoteBridge.Metrics
import QuoteBridge.Text.Numeral

/-!
# Envelope pools

A pool lends out envelopes with empty bodies and takes them back.  It grows by a whole batch when
none is free, and refuses envelopes of another pool.

**Memory.**  The bodies of a batch are allocated together, and an allocation has a largest size.
Who asks for a pool with more bodies in a batch gets no answer but is stopped.  Memory for anything
smaller is taken to be there.

**Counters.**  Pools are numbered, and bodies counted, in 64 bits; both counts are taken not to run
over.

**Results.**
* `exists_create_iff`: how many bodies a batch of a pool can have.
* `recycle_eq_empty`: a body that was lent before is empty when it is lent again.
* `available_ensureFree_pos`, `available_acquire`: there is always a body to lend, and lending
  takes one.
* `available_release`: what is taken back is free again.
-/

namespace QuoteBridge

/-- A body on loan from the pool with the number `poolId`. -/
structure Envelope where
  poolId : Nat
  body : Payload

/-- Octets that one allocation can have, 2⁶³ - 1. -/
def Pool.largestAllocation : Nat := 0x7FFFFFFFFFFFFFFF

/-- Octets that a body takes among the free ones. -/
def Pool.bodySize : Nat := 24

/-- Bodies that a batch can have. -/
def Pool.most : Nat := largestAllocation / bodySize

theorem Pool.two_le_most : 2 ≤ most := by decide

/-- Free bodies, the one lent out next first, and the number of bodies made so far. -/
structure Pool where
  id : Nat
  label : String
  batch : Nat
  free : List Payload
  allocated : Nat
  batch_pos : 0 < batch
  batch_le : batch ≤ Pool.most

/-- Why a pool is not made, or does not take back an envelope.  An overflow is not reported to who
asked for the pool: it stops the program. -/
inductive PoolError
  | emptyBatch
  | foreignEnvelope (expected found : Nat)
  | capacityOverflow
  deriving DecidableEq, Repr

def PoolError.message : PoolError → String
  | .emptyBatch => "Message pool batch size must be positive"
  | .foreignEnvelope expected found =>
      "Message pool error: envelope from pool " ++ Numeral.write found ++
        " returned to pool " ++ Numeral.write expected
  | .capacityOverflow => "capacity overflow"

namespace Pool

/-- Adds a batch of empty bodies. -/
def grow (p : Pool) : Pool :=
  { p with
    free := List.replicate p.batch ByteArray.empty ++ p.free
    allocated := p.allocated + p.batch }

/-- A pool with one batch of bodies. -/
def create (id : Nat) (label : String) (batch : Nat) : Except PoolError Pool :=
  if hpos : 0 < batch then
    if hle : batch ≤ most then .ok (grow ⟨id, label, batch, [], 0, hpos, hle⟩)
    else .error .capacityOverflow
  else .error .emptyBatch

/-- Number of free bodies. -/
def available (p : Pool) : Nat := p.free.length

/-- Grows if no body is free. -/
def ensureFree (p : Pool) : Pool :=
  match p.free with
  | [] => p.grow
  | _ :: _ => p

/-- Clears a body for its next use. -/
def recycle (body : Payload) : Payload := body.extract 0 0

/-- Lends out an envelope with the next free body, cleared. -/
def acquire (p : Pool) : Envelope × Pool :=
  let supplied := p.ensureFree
  (⟨p.id, recycle (supplied.free.headD ByteArray.empty)⟩,
    { supplied with free := supplied.free.tail })

/-- Takes back an envelope. -/
def release (p : Pool) (e : Envelope) : Except PoolError Pool :=
  if e.poolId = p.id then .ok { p with free := e.body :: p.free }
  else .error (.foreignEnvelope p.id e.poolId)

/-- A pool is made just if a batch has bodies, but not too many of them. -/
theorem exists_create_iff {id : Nat} {label : String} {batch : Nat} :
    (∃ p, create id label batch = .ok p) ↔ 0 < batch ∧ batch ≤ most := by
  unfold create
  split
  · rename_i hpos
    split
    · rename_i hle
      simp [hpos, hle]
    · rename_i hle
      simp [hle]
  · rename_i hpos
    simp [hpos]

/-- Nothing is left of what a body held. -/
@[simp] theorem recycle_eq_empty (body : Payload) : recycle body = ByteArray.empty := by
  simp [recycle]

@[simp] theorem body_acquire (p : Pool) : p.acquire.1.body = ByteArray.empty :=
  recycle_eq_empty _

@[simp] theorem poolId_acquire (p : Pool) : p.acquire.1.poolId = p.id := rfl

theorem available_grow (p : Pool) : p.grow.available = p.batch + p.available := by
  simp [available, grow]

theorem available_ensureFree_pos (p : Pool) : 0 < p.ensureFree.available := by
  unfold ensureFree
  split
  · have := p.batch_pos
    simp only [available, grow, List.length_append, List.length_replicate]
    omega
  · rename_i h
    simp [available, h]

/-- Lending takes one free body. -/
theorem available_acquire (p : Pool) :
    p.acquire.2.available + 1 = p.ensureFree.available := by
  have h := p.available_ensureFree_pos
  simp only [available, acquire, List.length_tail] at h ⊢
  omega

/-- An envelope that is taken back is free again, and nothing is made. -/
theorem available_release {p p' : Pool} {e : Envelope} (h : p.release e = .ok p') :
    p'.available = p.available + 1 ∧ p'.allocated = p.allocated := by
  unfold release at h
  split at h
  · cases h
    exact ⟨by simp [available], rfl⟩
  · cases h

end Pool

/-- Counts the bodies that a pool has made since an earlier state. -/
def Metrics.noteGrowth (before after : Pool) (m : Metrics) : Metrics :=
  if before.allocated < after.allocated then
    m.bumpBy (.envelopes after.label) (after.allocated - before.allocated)
  else m

/-- Counts the bodies of a new pool. -/
def Metrics.notePool (p : Pool) (m : Metrics) : Metrics :=
  m.bumpBy (.envelopes p.label) p.allocated

end QuoteBridge
