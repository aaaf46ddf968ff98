import Mathlib.Order.Bounds.Basic
import QuoteBridge.Pool.Depot
import QuoteBridge.Proofs.Pool.Lending
import QuoteBridge.Proofs.SortedMap.Entries

/-!
# The accounts of a depot

A depot with several pools is used in any way: pools are made and replaced, envelopes are borrowed,
written and brought back, also to a pool that they do not come from, and slips are used again while
an envelope is out on them.  A ledger is kept beside it of what each pool has lent and what it has
taken back, and the account of every pool is read off the ledger.

**Outstanding.**  An envelope of a pool is outstanding from its loan until the pool takes it back.
So one that is lost stays outstanding: one that another pool has refused, or whose slip was used
again.

**Results.**
* `Depot.perform_step`: what one operation can do.
* `Depot.Audited.step`: what is kept by every operation: pools have numbers of their own, no more
  envelopes are out on slips than outstanding, and each pool has its account.
* `Depot.accounts_balance`: the account of every pool after any operations, and what a loan and a
  refusal are.
-/

namespace QuoteBridge
namespace Depot

section Operations

/-- Something that is done with a depot. -/
inductive Act
  | make (name label : String) (batch : Nat)
  | acquire (name slip : String)
  | write (slip : String) (text : Payload)
  | release (name slip : String)

/-- An entry of the ledger: the pool with a number has lent an envelope or taken one back. -/
inductive Entry
  | lent (pool : Nat)
  | returned (pool : Nat)
  deriving DecidableEq

/-- The pool of an entry. -/
def Entry.pool : Entry → Nat
  | .lent k => k
  | .returned k => k

/-- What is entered for an operation. -/
def entries (act : Act) (d : Depot) : List Entry :=
  match act with
  | .acquire name slip => (d.acquire name slip).1.toList.map (fun e => .lent e.poolId)
  | .release name slip =>
      match d.pools.get? name, (d.release name slip).1 with
      | some p, some (.ok ()) => [.returned p.id]
      | _, _ => []
  | _ => []

/-- Does an operation. -/
def perform (act : Act) (d : Depot) : Depot :=
  match act with
  | .make name label batch => (d.makePool name label batch).2
  | .acquire name slip => (d.acquire name slip).2
  | .write slip text => (d.write slip text).2
  | .release name slip => (d.release name slip).2

/-- The depot and its ledger after operations in a row, from the empty depot on. -/
def run (acts : List Act) : Depot × List Entry :=
  acts.foldl (fun x act => (perform act x.1, x.2 ++ entries act x.1)) (empty, [])

@[simp] theorem run_concat (acts : List Act) (act : Act) :
    run (acts ++ [act]) = (perform act (run acts).1, (run acts).2 ++ entries act (run acts).1) := by
  simp [run]

end Operations

section Steps

/-- What one operation can do, and what is entered for it. -/
inductive Step (d : Depot) : List Entry → Depot → Prop
  | refused : Step d [] d
  | made {d' : Depot} {name label : String} {batch : Nat} {p : Pool}
      (h : Pool.create (d.made + 1) label batch = .ok p) (hpools : d'.pools = d.pools.insert name p)
      (hloans : d'.loans = d.loans) (hmade : d'.made = d.made + 1) : Step d [] d'
  | lent {d' : Depot} {name slip : String} {p : Pool} (h : d.pools.get? name = some p)
      (hpools : d'.pools = d.pools.insert name p.acquire.2)
      (hloans : d'.loans = d.loans.insert slip p.acquire.1) (hmade : d'.made = d.made) :
      Step d [.lent p.id] d'
  | written {d' : Depot} {slip : String} {e e' : Envelope} (h : d.loans.get? slip = some e)
      (hid : e'.poolId = e.poolId) (hpools : d'.pools = d.pools)
      (hloans : d'.loans = d.loans.insert slip e') (hmade : d'.made = d.made) : Step d [] d'
  | returned {d' : Depot} {name slip : String} {p p' : Pool} {e : Envelope}
      (h : d.pools.get? name = some p) (hslip : d.loans.get? slip = some e)
      (hid : e.poolId = p.id) (hrel : p.release e = .ok p')
      (hpools : d'.pools = d.pools.insert name p') (hloans : d'.loans = d.loans.erase slip)
      (hmade : d'.made = d.made) : Step d [.returned p.id] d'
  | lost {d' : Depot} {slip : String} (hpools : d'.pools = d.pools)
      (hloans : d'.loans = d.loans.erase slip) (hmade : d'.made = d.made) : Step d [] d'

theorem perform_step (act : Act) (d : Depot) : Step d (entries act d) (perform act d) := by
  cases act with
  | make name label batch =>
      simp only [perform, entries, makePool]
      split
      · exact .refused
      · rename_i h
        exact .made h rfl rfl rfl
  | acquire name slip =>
      simp only [perform, entries, acquire]
      split
      · exact .refused
      · rename_i h
        exact .lent h rfl rfl rfl
  | write slip text =>
      simp only [perform, entries, write]
      split
      · exact .refused
      · rename_i h
        exact .written h (by rfl) rfl rfl rfl
  | release name slip =>
      simp only [perform, entries, release]
      cases hp : d.pools.get? name with
      | none => exact .refused
      | some p =>
          cases he : d.loans.get? slip with
          | none => exact .refused
          | some e =>
              by_cases hid : e.poolId = p.id
              · have hrel := Pool.release_eq_ok_iff.mpr ⟨hid, rfl⟩
                simp only [hrel]
                exact .returned hp he hid hrel rfl rfl rfl
              · simp only [Pool.release_foreign hid]
                exact .lost rfl rfl rfl

end Steps

section Ledger

variable {j k : Nat} {js : List Entry} {x : Entry}

/-- The number of envelopes that a pool has lent. -/
def loaned (k : Nat) (js : List Entry) : Nat := js.count (.lent k)

/-- The number of envelopes that a pool has taken back. -/
def regained (k : Nat) (js : List Entry) : Nat := js.count (.returned k)

/-- The number of envelopes of a pool that it has lent and not taken back. -/
def outstanding (k : Nat) (js : List Entry) : Nat := loaned k js - regained k js

/-- The numbers of envelopes of a pool that were outstanding at the moments so far. -/
def moments (k : Nat) (js : List Entry) : Set Nat :=
  {n | ∃ before, before <+: js ∧ n = outstanding k before}

@[simp] theorem loaned_concat_lent : loaned k (js ++ [.lent k]) = loaned k js + 1 := by
  simp [loaned]

@[simp] theorem loaned_concat_returned : loaned k (js ++ [.returned j]) = loaned k js := by
  simp [loaned]

@[simp] theorem regained_concat_returned :
    regained k (js ++ [.returned k]) = regained k js + 1 := by
  simp [regained]

@[simp] theorem regained_concat_lent : regained k (js ++ [.lent j]) = regained k js := by
  simp [regained]

theorem loaned_concat_of_ne (h : x.pool ≠ k) : loaned k (js ++ [x]) = loaned k js := by
  cases x with
  | lent j =>
      have hj : j ≠ k := h
      simp [loaned, hj]
  | returned j => simp

theorem regained_concat_of_ne (h : x.pool ≠ k) : regained k (js ++ [x]) = regained k js := by
  cases x with
  | lent j => simp
  | returned j =>
      have hj : j ≠ k := h
      simp [regained, hj]

theorem moments_concat (k : Nat) (js : List Entry) (x : Entry) :
    moments k (js ++ [x]) = insert (outstanding k (js ++ [x])) (moments k js) := by
  ext n
  constructor
  · rintro ⟨before, hbefore, rfl⟩
    rcases List.prefix_concat_iff.mp hbefore with rfl | hbefore
    · exact Set.mem_insert _ _
    · exact Set.mem_insert_of_mem _ ⟨before, hbefore, rfl⟩
  · rintro (rfl | ⟨before, hbefore, rfl⟩)
    · exact ⟨_, List.prefix_rfl, rfl⟩
    · exact ⟨before, hbefore.trans (List.prefix_append _ _), rfl⟩

/-- An entry of another pool adds no moment. -/
theorem moments_concat_of_ne (h : x.pool ≠ k) : moments k (js ++ [x]) = moments k js := by
  have hnow : outstanding k (js ++ [x]) ∈ moments k js := by
    rw [outstanding, loaned_concat_of_ne h, regained_concat_of_ne h]
    exact ⟨js, List.prefix_rfl, rfl⟩
  rw [moments_concat]
  exact Set.insert_eq_of_mem hnow

end Ledger

section Accounts

variable {k : Nat} {js : List Entry} {x : Entry} {p p' : Pool} {e : Envelope}

/-- The account of a pool, read off the ledger. -/
def Accounted (js : List Entry) (p : Pool) : Prop :=
  ∃ peak, IsGreatest (moments p.id js) peak ∧ p.Account (loaned p.id js) (regained p.id js) peak

theorem Accounted.aside (h : Accounted js p) (hx : x.pool ≠ p.id) : Accounted (js ++ [x]) p := by
  obtain ⟨peak, hpeak, haccount⟩ := h
  refine ⟨peak, ?_, ?_⟩
  · rwa [moments_concat_of_ne hx]
  · rwa [loaned_concat_of_ne hx, regained_concat_of_ne hx]

/-- A new pool has lent nothing yet. -/
theorem accounted_create {label : String} {batch : Nat} (h : Pool.create k label batch = .ok p)
    (hloaned : loaned p.id js = 0) (hregained : regained p.id js = 0) : Accounted js p := by
  refine ⟨0, ⟨⟨[], List.nil_prefix, rfl⟩, ?_⟩, ?_⟩
  · rintro n ⟨before, hbefore, rfl⟩
    have hle : loaned p.id before ≤ loaned p.id js :=
      hbefore.sublist.count_le (Entry.lent p.id)
    rw [outstanding]
    omega
  · rw [hloaned, hregained]
    exact Pool.account_create h

theorem Accounted.lend (h : Accounted js p) : Accounted (js ++ [.lent p.id]) p.acquire.2 := by
  obtain ⟨peak, hpeak, haccount⟩ := h
  have hgreatest := hpeak.insert (outstanding p.id (js ++ [.lent p.id]))
  rw [← moments_concat, max_comm, outstanding, loaned_concat_lent, regained_concat_lent]
    at hgreatest
  refine ⟨max peak (loaned p.id js + 1 - regained p.id js), ?_, ?_⟩
  · rwa [Pool.id_acquire]
  · rw [Pool.id_acquire, loaned_concat_lent, regained_concat_lent]
    exact haccount.lend

theorem Accounted.takeBack (h : Accounted js p) (hout : regained p.id js < loaned p.id js)
    (hrel : p.release e = .ok p') : Accounted (js ++ [.returned p.id]) p' := by
  obtain ⟨peak, hpeak, haccount⟩ := h
  have hle : outstanding p.id (js ++ [.returned p.id]) ≤ peak := by
    have := haccount.outstanding_le
    rw [outstanding, loaned_concat_returned, regained_concat_returned]
    omega
  have hgreatest := hpeak.insert (outstanding p.id (js ++ [.returned p.id]))
  rw [← moments_concat, max_eq_right hle] at hgreatest
  refine ⟨peak, ?_, ?_⟩
  · rwa [Pool.id_release hrel]
  · rw [Pool.id_release hrel, loaned_concat_returned, regained_concat_returned]
    exact haccount.takeBack hout hrel

end Accounts

section Loans

variable {d d' : Depot} {k : Nat} {slip : String} {e e' : Envelope}

/-- The number of envelopes of a pool that are out on slips. -/
def onLoan (k : Nat) (d : Depot) : Nat := d.loans.entries.countP (fun l => l.2.poolId = k)

theorem onLoan_erase_le (h : d'.loans = d.loans.erase slip) : d'.onLoan k ≤ d.onLoan k := by
  rw [onLoan, h]
  exact (d.loans.entries_erase_sublist slip).countP_le

theorem onLoan_erase (hslip : d.loans.get? slip = some e) (h : d'.loans = d.loans.erase slip) :
    d.onLoan k = d'.onLoan k + if e.poolId = k then 1 else 0 := by
  rw [onLoan, onLoan, (SortedMap.perm_entries_erase hslip).countP_eq, List.countP_cons, h]
  simp

theorem onLoan_insert (h : d'.loans = d.loans.insert slip e) :
    d'.onLoan k = ({ d with loans := d.loans.erase slip } : Depot).onLoan k +
      if e.poolId = k then 1 else 0 := by
  rw [onLoan, h, (d.loans.perm_entries_insert slip e).countP_eq, List.countP_cons]
  simp [onLoan]

theorem onLoan_insert_le (h : d'.loans = d.loans.insert slip e) :
    d'.onLoan k ≤ d.onLoan k + if e.poolId = k then 1 else 0 := by
  rw [onLoan_insert h]
  exact Nat.add_le_add_right (onLoan_erase_le rfl) _

/-- Writing changes no number. -/
theorem onLoan_write (hslip : d.loans.get? slip = some e) (hid : e'.poolId = e.poolId)
    (h : d'.loans = d.loans.insert slip e') : d'.onLoan k = d.onLoan k := by
  have herase : d.onLoan k = ({ d with loans := d.loans.erase slip } : Depot).onLoan k +
      if e.poolId = k then 1 else 0 := onLoan_erase hslip rfl
  rw [onLoan_insert h, herase, hid]

end Loans

section Audit

variable {d d' : Depot} {js es : List Entry} {name : String} {p p' : Pool}

/-- What is kept by every operation. -/
structure Audited (d : Depot) (js : List Entry) : Prop where
  distinct : ∀ {name name' p p'}, d.pools.get? name = some p → d.pools.get? name' = some p' →
    p.id = p'.id → name = name'
  numbered : ∀ {name p}, d.pools.get? name = some p → p.id ≤ d.made
  unused : ∀ {k}, d.made < k → loaned k js = 0
  onLoan_le : ∀ k, regained k js + d.onLoan k ≤ loaned k js
  accounted : ∀ {name p}, d.pools.get? name = some p → Accounted js p

theorem audited_empty : Audited empty [] where
  distinct := fun h => by simp [empty] at h
  numbered := fun h => by simp [empty] at h
  unused := fun _ => rfl
  onLoan_le := fun _ => Nat.le_refl 0
  accounted := fun h => by simp [empty] at h

/-- The pools stay as they are. -/
theorem Audited.samePools (h : Audited d js) (hpools : d'.pools = d.pools)
    (hmade : d'.made = d.made) (hloans : ∀ k, d'.onLoan k ≤ d.onLoan k) : Audited d' js where
  distinct := by
    rw [hpools]
    exact h.distinct
  numbered := by
    rw [hpools, hmade]
    exact h.numbered
  unused := by
    rw [hmade]
    exact h.unused
  onLoan_le := fun k => by
    have hle := h.onLoan_le k
    have := hloans k
    omega
  accounted := by
    rw [hpools]
    exact h.accounted

/-- A pool changes, and the ledger gets an entry of it. -/
theorem Audited.changed {x : Entry} (h : Audited d js) (hname : d.pools.get? name = some p)
    (hid : p'.id = p.id) (hx : x.pool = p.id) (hpools : d'.pools = d.pools.insert name p')
    (hmade : d'.made = d.made)
    (hloans : ∀ k, regained k (js ++ [x]) + d'.onLoan k ≤ loaned k (js ++ [x]))
    (haccount : Accounted (js ++ [x]) p') : Audited d' (js ++ [x]) := by
  have hold : ∀ {n q}, d'.pools.get? n = some q →
      ∃ q₀, d.pools.get? n = some q₀ ∧ q₀.id = q.id := by
    intro n q hq
    rw [hpools] at hq
    by_cases hn : n = name
    · subst hn
      rw [SortedMap.get?_insert_self] at hq
      cases hq
      exact ⟨p, hname, hid.symm⟩
    · rw [SortedMap.get?_insert_of_ne _ hn] at hq
      exact ⟨q, hq, rfl⟩
  constructor
  case distinct =>
    intro n n' q q' hq hq' heq
    obtain ⟨q₀, hq₀, hid₀⟩ := hold hq
    obtain ⟨q₀', hq₀', hid₀'⟩ := hold hq'
    exact h.distinct hq₀ hq₀' (by rw [hid₀, hid₀', heq])
  case numbered =>
    intro n q hq
    obtain ⟨q₀, hq₀, hid₀⟩ := hold hq
    rw [hmade, ← hid₀]
    exact h.numbered hq₀
  case unused =>
    intro k hk
    rw [hmade] at hk
    have hne : x.pool ≠ k := by
      have := h.numbered hname
      omega
    rw [loaned_concat_of_ne hne]
    exact h.unused hk
  case onLoan_le => exact hloans
  case accounted =>
    intro n q hq
    rw [hpools] at hq
    by_cases hn : n = name
    · rw [hn, SortedMap.get?_insert_self] at hq
      cases hq
      exact haccount
    · rw [SortedMap.get?_insert_of_ne _ hn] at hq
      refine (h.accounted hq).aside (fun heq => hn ?_)
      exact h.distinct hq hname (by rw [← heq, hx])

/-- A new pool has a number that no other pool has had. -/
theorem Audited.made {label : String} {batch : Nat} (h : Audited d js)
    (hcreate : Pool.create (d.made + 1) label batch = .ok p)
    (hpools : d'.pools = d.pools.insert name p) (hloans : d'.loans = d.loans)
    (hmade : d'.made = d.made + 1) : Audited d' js := by
  have hid : p.id = d.made + 1 := by
    obtain ⟨_, _, rfl⟩ := Pool.create_eq_ok_iff.mp hcreate
    rfl
  have hcases : ∀ {n q}, d'.pools.get? n = some q →
      (n = name ∧ q = p) ∨ (d.pools.get? n = some q ∧ q.id ≤ d.made) := by
    intro n q hq
    rw [hpools] at hq
    by_cases hn : n = name
    · rw [hn, SortedMap.get?_insert_self] at hq
      cases hq
      exact Or.inl ⟨hn, rfl⟩
    · rw [SortedMap.get?_insert_of_ne _ hn] at hq
      exact Or.inr ⟨hq, h.numbered hq⟩
  constructor
  case distinct =>
    intro n n' q q' hq hq' heq
    rcases hcases hq with ⟨rfl, rfl⟩ | ⟨hq, hle⟩
    · rcases hcases hq' with ⟨rfl, -⟩ | ⟨-, hle'⟩
      · rfl
      · omega
    · rcases hcases hq' with ⟨rfl, rfl⟩ | ⟨hq', -⟩
      · omega
      · exact h.distinct hq hq' heq
  case numbered =>
    intro n q hq
    rcases hcases hq with ⟨-, rfl⟩ | ⟨-, hle⟩
    · omega
    · omega
  case unused =>
    intro k hk
    exact h.unused (by omega)
  case onLoan_le =>
    intro k
    rw [onLoan, hloans]
    exact h.onLoan_le k
  case accounted =>
    intro n q hq
    rcases hcases hq with ⟨-, rfl⟩ | ⟨hq, -⟩
    · have hloaned : loaned q.id js = 0 := h.unused (by omega)
      have hregained : regained q.id js = 0 := by
        have := h.onLoan_le q.id
        omega
      exact accounted_create hcreate hloaned hregained
    · exact h.accounted hq

theorem Audited.step (h : Audited d js) (hstep : Step d es d') : Audited d' (js ++ es) := by
  cases hstep with
  | refused =>
      rw [List.append_nil]
      exact h
  | made hcreate hpools hloans hmade =>
      rw [List.append_nil]
      exact h.made hcreate hpools hloans hmade
  | @lent _ name slip p hname hpools hloans hmade =>
      refine h.changed hname (Pool.id_acquire p) rfl hpools hmade (fun k => ?_)
        (h.accounted hname).lend
      have hle := h.onLoan_le k
      have hinsert := onLoan_insert_le (k := k) hloans
      rw [Pool.poolId_acquire] at hinsert
      by_cases hk : p.id = k
      · subst hk
        rw [if_pos rfl] at hinsert
        rw [loaned_concat_lent, regained_concat_lent]
        omega
      · rw [if_neg hk] at hinsert
        rw [loaned_concat_of_ne (x := .lent p.id) hk, regained_concat_lent]
        omega
  | written hslip hid hpools hloans hmade =>
      rw [List.append_nil]
      exact h.samePools hpools hmade (fun k => (onLoan_write hslip hid hloans).le)
  | @returned _ name slip p p' e hname hslip hid hrel hpools hloans hmade =>
      have hout : regained p.id js < loaned p.id js := by
        have hle := h.onLoan_le p.id
        have herase := onLoan_erase (k := p.id) hslip hloans
        rw [if_pos hid] at herase
        omega
      refine h.changed hname (Pool.id_release hrel) rfl hpools hmade (fun k => ?_)
        ((h.accounted hname).takeBack hout hrel)
      have hle := h.onLoan_le k
      have herase := onLoan_erase (k := k) hslip hloans
      by_cases hk : p.id = k
      · subst hk
        rw [if_pos hid] at herase
        rw [loaned_concat_returned, regained_concat_returned]
        omega
      · rw [if_neg (hid ▸ hk)] at herase
        rw [loaned_concat_returned, regained_concat_of_ne (x := .returned p.id) hk]
        omega
  | lost hpools hloans hmade =>
      rw [List.append_nil]
      exact h.samePools hpools hmade (fun k => onLoan_erase_le hloans)

theorem audited_run (acts : List Act) : Audited (run acts).1 (run acts).2 := by
  induction acts using List.reverseRecOn with
  | nil => exact audited_empty
  | append_singleton acts act ih =>
      rw [run_concat]
      exact ih.step (perform_step act _)

/-- After any operations each pool has as many bodies as are free and outstanding, made in the
batches that its peak needs.  An envelope is lent empty and with the number of the pool.  A pool
refuses just the envelopes of other pools, names both numbers, and no pool changes. -/
theorem accounts_balance (acts : List Act) {name : String} {p : Pool}
    (hname : (run acts).1.pools.get? name = some p) :
    (p.allocated = p.available + outstanding p.id (run acts).2 ∧
      regained p.id (run acts).2 ≤ loaned p.id (run acts).2 ∧
      ∃ peak, IsGreatest (moments p.id (run acts).2) peak ∧
        p.allocated = p.batch * max 1 (peak ⌈/⌉ p.batch)) ∧
    (∀ slip, ∃ e, ((run acts).1.acquire name slip).1 = some e ∧ e.body = .empty ∧
      e.poolId = p.id) ∧
    ∀ slip e, (run acts).1.loans.get? slip = some e →
      (e.poolId = p.id → ((run acts).1.release name slip).1 = some (.ok ())) ∧
      (e.poolId ≠ p.id →
        ((run acts).1.release name slip).1 = some (.error (.foreignEnvelope p.id e.poolId)) ∧
        ((run acts).1.release name slip).2.pools = (run acts).1.pools) := by
  refine ⟨?_, fun slip => ?_, fun slip e hslip => ⟨fun hid => ?_, fun hid => ?_⟩⟩
  · obtain ⟨peak, hpeak, haccount⟩ := (audited_run acts).accounted hname
    exact ⟨haccount.balance, haccount.returned_le, peak, hpeak, haccount.supplied⟩
  · refine ⟨p.acquire.1, ?_, Pool.body_acquire p, rfl⟩
    simp only [acquire, hname]
  · simp only [release, hname, hslip, Pool.release_eq_ok_iff.mpr ⟨hid, rfl⟩]
  · simp only [release, hname, hslip, Pool.release_foreign hid, and_self]

/-- Two pools; three envelopes of the first are borrowed and one is written, brought back and
borrowed again, one is brought to the wrong pool, and one is lost with its slip. -/
def demoActs : List Act :=
  [.make "a" "requests" 2, .make "b" "updates" 1,
    .acquire "a" "x", .write "x" "long".toUTF8, .release "a" "x",
    .acquire "a" "x", .acquire "a" "y", .acquire "a" "z", .release "b" "y", .acquire "a" "z"]

theorem accounts_balance_demo :
    ∃ p, (run demoActs).1.pools.get? "a" = some p ∧ p.allocated = 4 ∧ p.available = 0 ∧
      p.allocated = p.available + outstanding p.id (run demoActs).2 := by
  obtain ⟨p, hp, hmade, hfree⟩ : ∃ p, (run demoActs).1.pools.get? "a" = some p ∧
      p.allocated = 4 ∧ p.available = 0 := ⟨_, rfl, rfl, rfl⟩
  exact ⟨p, hp, hmade, hfree, (accounts_balance demoActs hp).1.1⟩

end Audit

end Depot
end QuoteBridge
