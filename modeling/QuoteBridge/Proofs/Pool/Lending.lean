import Mathlib.Algebra.Order.Floor.Div
import QuoteBridge.Pool

/-!
# Lending and taking back

What one pool does with its envelopes, and the account that can be kept of it from outside.

**Account.**  Envelopes are lent and some of them are taken back; the rest is outstanding.  The peak
is the largest number that was outstanding so far.  A pool makes a batch only when every body that
it has made is outstanding, so the batches it has made are those that the peak needs.

**Results.**
* `Pool.acquire_of_pos`, `Pool.acquire_of_empty`: a pool grows only when it has nothing to lend.
* `Pool.release_eq_ok_iff`, `Pool.release_foreign`: which envelopes a pool takes back.
* `Pool.account_create`, `Pool.Account.lend`, `Pool.Account.takeBack`: what making a pool, lending
  and taking back do to the account.
-/

namespace QuoteBridge
namespace Pool

variable {p p' : Pool} {e : Envelope}

section Operations

theorem ensureFree_of_pos (h : 0 < p.available) : p.ensureFree = p := by
  unfold ensureFree
  split
  · rename_i hfree
    rw [available, hfree] at h
    cases h
  · rfl

theorem ensureFree_of_empty (h : p.available = 0) : p.ensureFree = p.grow := by
  rw [ensureFree, List.eq_nil_of_length_eq_zero h]

@[simp] theorem id_acquire (p : Pool) : p.acquire.2.id = p.id := by
  show p.ensureFree.id = p.id
  unfold ensureFree
  split <;> rfl

@[simp] theorem batch_acquire (p : Pool) : p.acquire.2.batch = p.batch := by
  show p.ensureFree.batch = p.batch
  unfold ensureFree
  split <;> rfl

/-- A pool with a free body does not grow. -/
theorem acquire_of_pos (h : 0 < p.available) :
    p.acquire.2.available + 1 = p.available ∧ p.acquire.2.allocated = p.allocated := by
  constructor
  · rw [available_acquire, ensureFree_of_pos h]
  · show p.ensureFree.allocated = p.allocated
    rw [ensureFree_of_pos h]

/-- A pool without a free body makes one batch. -/
theorem acquire_of_empty (h : p.available = 0) :
    p.acquire.2.available + 1 = p.batch ∧ p.acquire.2.allocated = p.allocated + p.batch := by
  constructor
  · rw [available_acquire, ensureFree_of_empty h, available_grow, h, Nat.add_zero]
  · show p.ensureFree.allocated = p.allocated + p.batch
    rw [ensureFree_of_empty h]
    rfl

theorem release_foreign (h : e.poolId ≠ p.id) :
    p.release e = .error (.foreignEnvelope p.id e.poolId) :=
  if_neg h

theorem release_eq_ok_iff :
    p.release e = .ok p' ↔ e.poolId = p.id ∧ p' = { p with free := e.body :: p.free } := by
  unfold release
  split
  · rename_i h
    simp [h, eq_comm]
  · rename_i h
    simp [h]

theorem id_release (h : p.release e = .ok p') : p'.id = p.id := by
  rw [(release_eq_ok_iff.mp h).2]

theorem create_eq_ok_iff {id : Nat} {label : String} {batch : Nat} :
    create id label batch = .ok p ↔
      ∃ (hpos : 0 < batch) (hle : batch ≤ most),
        p = grow ⟨id, label, batch, [], 0, hpos, hle⟩ := by
  unfold create
  split
  · rename_i hpos
    split
    · rename_i hle
      simp [hpos, hle, eq_comm]
    · rename_i hle
      simp [hle]
  · rename_i hpos
    simp [hpos]

end Operations

section Batches

variable {b n peak : Nat}

/-- The bodies that a pool makes in batches of `b` for a peak. -/
def supply (b peak : Nat) : Nat := b * max 1 (peak ⌈/⌉ b)

theorem le_supply (hb : 0 < b) (peak : Nat) : peak ≤ supply b peak := by
  have hceil : peak ≤ b * (peak ⌈/⌉ b) := (ceilDiv_le_iff_le_mul hb).mp le_rfl
  exact hceil.trans (Nat.mul_le_mul_left b (Nat.le_max_right 1 _))

theorem supply_zero (hb : 0 < b) : supply b 0 = b := by
  have hceil : (0 : Nat) ⌈/⌉ b ≤ 0 := (ceilDiv_le_iff_le_mul hb).mpr (Nat.zero_le _)
  rw [supply, Nat.max_eq_left (by omega), Nat.mul_one]

/-- A higher peak that the bodies suffice for asks for no other batch. -/
theorem supply_of_le (hb : 0 < b) (hpeak : peak ≤ n) (hn : n ≤ supply b peak) :
    supply b n = supply b peak := by
  have hle : n ⌈/⌉ b ≤ max 1 (peak ⌈/⌉ b) := (ceilDiv_le_iff_le_mul hb).mpr hn
  have hmono : peak ⌈/⌉ b ≤ n ⌈/⌉ b := by
    refine (ceilDiv_le_iff_le_mul hb).mpr (hpeak.trans ?_)
    exact (ceilDiv_le_iff_le_mul hb).mp le_rfl
  have hmax : max 1 (n ⌈/⌉ b) = max 1 (peak ⌈/⌉ b) := by omega
  rw [supply, hmax, supply]

/-- One more than all bodies asks for one more batch. -/
theorem supply_succ (hb : 0 < b) (hn : n = supply b peak) : supply b (n + 1) = n + b := by
  have hle : (n + 1) ⌈/⌉ b ≤ max 1 (peak ⌈/⌉ b) + 1 := by
    refine (ceilDiv_le_iff_le_mul hb).mpr ?_
    rw [Nat.mul_succ, hn, supply]
    omega
  have hlt : ¬ (n + 1) ⌈/⌉ b ≤ max 1 (peak ⌈/⌉ b) := by
    intro h
    have hroom := (ceilDiv_le_iff_le_mul hb).mp h
    rw [hn, supply] at hroom
    omega
  have hmax : max 1 ((n + 1) ⌈/⌉ b) = max 1 (peak ⌈/⌉ b) + 1 := by omega
  rw [supply, hmax, Nat.mul_succ, hn, supply]

end Batches

section Accounts

variable {lent returned peak : Nat}

/-- The account of a pool that has lent and taken back envelopes. -/
structure Account (p : Pool) (lent returned peak : Nat) : Prop where
  returned_le : returned ≤ lent
  balance : p.allocated = p.available + (lent - returned)
  outstanding_le : lent - returned ≤ peak
  supplied : p.allocated = supply p.batch peak

theorem account_create {id : Nat} {label : String} {batch : Nat}
    (h : create id label batch = .ok p) : Account p 0 0 0 := by
  obtain ⟨hb, -, rfl⟩ := create_eq_ok_iff.mp h
  exact ⟨le_rfl, by simp [grow, available], le_rfl, by simp [grow, supply_zero hb]⟩

/-- Lending makes one envelope more outstanding, and the pool grows if the peak asks for it. -/
theorem Account.lend (h : Account p lent returned peak) :
    Account p.acquire.2 (lent + 1) returned (max peak (lent + 1 - returned)) := by
  have hret := h.returned_le
  have hbal := h.balance
  have hle := h.outstanding_le
  have hpeak : peak ≤ p.allocated := h.supplied ▸ le_supply p.batch_pos peak
  rcases Nat.eq_zero_or_pos p.available with hempty | hpos
  · obtain ⟨hfree, hmade⟩ := acquire_of_empty hempty
    have hmax : max peak (lent + 1 - returned) = p.allocated + 1 := by omega
    refine ⟨by omega, by omega, Nat.le_max_right _ _, ?_⟩
    rw [hmade, hmax, batch_acquire, supply_succ p.batch_pos h.supplied]
  · obtain ⟨hfree, hmade⟩ := acquire_of_pos hpos
    refine ⟨by omega, by omega, Nat.le_max_right _ _, ?_⟩
    rw [hmade, batch_acquire, h.supplied]
    refine (supply_of_le p.batch_pos (Nat.le_max_left _ _) ?_).symm
    rw [← h.supplied]
    omega

/-- Taking back makes one envelope less outstanding. -/
theorem Account.takeBack (h : Account p lent returned peak) (hout : returned < lent)
    (hrel : p.release e = .ok p') : Account p' lent (returned + 1) peak := by
  obtain ⟨hfree, hmade⟩ := available_release hrel
  have hbatch : p'.batch = p.batch := by rw [(release_eq_ok_iff.mp hrel).2]
  have hbal := h.balance
  have hle := h.outstanding_le
  exact ⟨hout, by omega, by omega, by rw [hmade, hbatch, h.supplied]⟩

end Accounts

end Pool
end QuoteBridge
