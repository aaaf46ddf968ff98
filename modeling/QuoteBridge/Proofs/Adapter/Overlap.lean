import QuoteBridge.Proofs.Adapter.Dispatch
import QuoteBridge.Proofs.Gate.Order
import QuoteBridge.Proofs.Request.RoundTrip

/-!
# Rounds that overlap

Several dispatch rounds may run at a time.  A round takes the oldest request from the queue in one
step and hands it to the bus in the next one, and other rounds may go on in between.

**Schedules.**  A schedule names, step by step, the round that goes on.  A round that finds the
queue empty is over.

**Results.**
* `Adapter.Crew.run_alone`: a round that no other one interrupts is a dispatch round.
* `Adapter.Tally.advance`: no request is lost or taken twice, and each round keeps the order of the
  queue.
* `Adapter.overlapping_rounds`: what the rounds hand over is a rearrangement of the queue, which
  leaves the other side with the registry of the queue just if the same subscriptions are in force
  at its end.
* `Adapter.reset_overtaken`: this can fail, as a reset may come last.
-/

namespace QuoteBridge
namespace Adapter

variable {β H : Type}

section Steps

/-- What a round is about to do: to look for the next request, or to hand over the one it has taken
from the queue. -/
inductive Errand
  | seeking
  | holding (r : Request)
  | finished
  deriving DecidableEq

/-- Dispatch rounds of an adapter at work.  `taken` has the requests that were taken from the queue,
each with its round, and `handed` those that were handed to the bus. -/
structure Crew (β H : Type) where
  world : Adapter H × Scene (Noted β) H
  errands : List Errand
  taken : List (Nat × Request)
  handed : List (Nat × Request)

namespace Crew

/-- The requests that wait. -/
def pending (f : Crew β H) : List Request := f.world.1.book.pending

/-- What was handed to the bus. -/
def sendings (f : Crew β H) : List Sending := f.world.2.bus.2

/-- What the other side reads of it. -/
def received (f : Crew β H) : List Request :=
  f.sendings.filterMap (fun x => Generator.readRequest x.payload)

/-- Some rounds begin. -/
def opened (n : Nat) (x : Adapter H × Scene (Noted β) H) : Crew β H :=
  ⟨x, List.replicate n .seeking, [], []⟩

/-- One step of a round. -/
def advance (link : Link β) (k : Nat) (f : Crew β H) : Crew β H :=
  match f.errands[k]? with
  | some .seeking =>
      match f.world.1.book.pop with
      | (none, _) =>
          { f with
            world := (f.world.1.endRound, f.world.2)
            errands := f.errands.set k .finished }
      | (some r, book) =>
          { f with
            world := ({ f.world.1 with book := book }, f.world.2)
            errands := f.errands.set k (.holding r)
            taken := f.taken ++ [(k, r)] }
  | some (.holding r) =>
      { f with
        world := dispatchOne link.noted r f.world.1 f.world.2
        errands := f.errands.set k .seeking
        handed := f.handed ++ [(k, r)] }
  | _ => f

/-- Lets the rounds of a schedule go on in turn. -/
def run (link : Link β) (schedule : List Nat) (f : Crew β H) : Crew β H :=
  schedule.foldl (fun f k => f.advance link k) f

end Crew

variable {k : Nat} {f : Crew β H} {r : Request} {rs : List Request}

theorem pop_of_pending {b : Book H} (hp : b.pending = r :: rs) :
    b.pop = (some r, { b with pending := rs }) := by
  rw [Book.pop, hp]

variable (link : Link β)

theorem Crew.advance_ended (he : f.errands[k]? = some .seeking) (hp : f.pending = []) :
    f.advance link k =
      { f with
        world := (f.world.1.endRound, f.world.2)
        errands := f.errands.set k .finished } := by
  have hpop : f.world.1.book.pop = (none, f.world.1.book) := by
    rw [pending] at hp
    rw [Book.pop, hp]
  rw [advance, he, hpop]

theorem Crew.advance_took (he : f.errands[k]? = some .seeking) (hp : f.pending = r :: rs) :
    f.advance link k =
      { f with
        world := ({ f.world.1 with book := { f.world.1.book with pending := rs } }, f.world.2)
        errands := f.errands.set k (.holding r)
        taken := f.taken ++ [(k, r)] } := by
  rw [advance, he, pop_of_pending hp]

theorem Crew.advance_gave (he : f.errands[k]? = some (.holding r)) :
    f.advance link k =
      { f with
        world := dispatchOne link.noted r f.world.1 f.world.2
        errands := f.errands.set k .seeking
        handed := f.handed ++ [(k, r)] } := by
  rw [advance, he]

theorem getElem?_set_errand {errands : List Errand} {e e' : Errand} (h : errands[k]? = some e) :
    (errands.set k e')[k]? = some e' :=
  List.getElem?_set_self (List.getElem?_eq_some_iff.mp h).1

/-- Two steps of a round that is not interrupted send the oldest request. -/
theorem Crew.advance_twice (he : f.errands[k]? = some .seeking) (hp : f.pending = r :: rs) :
    ((f.advance link k).advance link k).world = perform link.noted .send f.world ∧
      ((f.advance link k).advance link k).errands[k]? = some .seeking := by
  have hheld : (f.advance link k).errands[k]? = some (.holding r) := by
    rw [advance_took link he hp]
    exact getElem?_set_errand he
  rw [advance_gave link hheld]
  refine ⟨?_, getElem?_set_errand hheld⟩
  rw [advance_took link he hp]
  show dispatchOne link.noted r _ f.world.2 = sendNext link.noted f.world.1 f.world.2
  rw [sendNext, pop_of_pending hp]

theorem pending_sendNext {a : Adapter H} {s : Scene β H} (hp : a.book.pending = r :: rs) :
    (sendNext link a s).1.book.pending = rs := by
  rw [sendNext, pop_of_pending hp, book_dispatchOne]

/-- A round that no other one interrupts is a dispatch round. -/
theorem Crew.run_alone (he : f.errands[k]? = some .seeking) :
    (f.run link (List.replicate (2 * f.pending.length + 1) k)).world =
      dispatchRound link.noted f.world.1 f.world.2 := by
  rw [dispatchRound_eq_run]
  show _ = Adapter.run link.noted (List.replicate f.pending.length .send ++ [.endRound]) f.world
  generalize hp : f.pending = rs
  induction rs generalizing f with
  | nil =>
      show (f.advance link k).world = _
      rw [advance_ended link he hp]
      rfl
  | cons r rs ih =>
      obtain ⟨hworld, hseeking⟩ := advance_twice link he hp
      have hpending : ((f.advance link k).advance link k).pending = rs := by
        rw [pending, hworld]
        exact pending_sendNext link.noted hp
      have hrest := ih hseeking hpending
      rw [hworld] at hrest
      exact hrest

end Steps

section Tallies

/-- The request that a round has taken and not handed over. -/
def Errand.holds (k : Nat) : Errand → List (Nat × Request)
  | .holding r => [(k, r)]
  | _ => []

/-- The request that one of the rounds has taken and not handed over. -/
def heldIn (errands : List Errand) (k : Nat) : List (Nat × Request) :=
  errands[k]?.elim [] (Errand.holds k)

variable {errands : List Errand} {e e' : Errand} {j k : Nat}

theorem heldIn_of_getElem? (h : errands[k]? = some e) : heldIn errands k = e.holds k := by
  rw [heldIn, h, Option.elim_some]

theorem heldIn_set_self (h : errands[k]? = some e) : heldIn (errands.set k e') k = e'.holds k :=
  heldIn_of_getElem? (getElem?_set_errand h)

theorem heldIn_set_of_ne (h : k ≠ j) : heldIn (errands.set k e) j = heldIn errands j := by
  rw [heldIn, heldIn, List.getElem?_set_ne h]

/-- A step of one round concerns its own rows only. -/
theorem rounds_step {taken handed : List (Nat × Request)}
    (h : ∀ j, taken.filter (·.1 = j) = handed.filter (·.1 = j) ++ heldIn errands j)
    (he : errands[k]? = some e) (e' : Errand) (more gone : List (Nat × Request))
    (hmore : ∀ row ∈ more, row.1 = k) (hgone : ∀ row ∈ gone, row.1 = k)
    (hheld : e.holds k ++ more = gone ++ e'.holds k) (j : Nat) :
    (taken ++ more).filter (·.1 = j) =
      (handed ++ gone).filter (·.1 = j) ++ heldIn (errands.set k e') j := by
  rw [List.filter_append, List.filter_append, h]
  by_cases hj : k = j
  · subst hj
    have hown {rows : List (Nat × Request)} (hrows : ∀ row ∈ rows, row.1 = k) :
        rows.filter (·.1 = k) = rows :=
      List.filter_eq_self.mpr (fun row hrow => decide_eq_true (hrows row hrow))
    rw [heldIn_set_self he, heldIn_of_getElem? he, hown hmore, hown hgone, List.append_assoc, hheld,
      List.append_assoc]
  · have hother {rows : List (Nat × Request)} (hrows : ∀ row ∈ rows, row.1 = k) :
        rows.filter (·.1 = j) = [] := by
      refine List.filter_eq_nil_iff.mpr (fun row hrow => ?_)
      simpa [hrows row hrow] using hj
    rw [heldIn_set_of_ne hj, hother hmore, hother hgone, List.append_nil, List.append_nil]

/-- What was written of a payload that was handed to a bus. -/
def Sending.written (x : Sending) : Channel × Payload := (x.channel, x.payload)

/-- Every request of the queue was taken by one of the rounds or still waits.  A round hands over
what it takes in the order in which it takes it, and holds at most one request.  Once a round is
over none waits. -/
structure Tally (queue : List Request) (n : Nat) (f : Crew β H) : Prop where
  queue : queue = f.taken.map (·.2) ++ f.pending
  size : f.errands.length = n
  among : ∀ row ∈ f.taken, row.1 < n
  rounds : ∀ k, f.taken.filter (·.1 = k) = f.handed.filter (·.1 = k) ++ heldIn f.errands k
  sendings : f.sendings.map Sending.written =
    f.handed.map (fun row => (.requests, requestOctets row.2))
  finished : .finished ∈ f.errands → f.pending = []

variable {f : Crew β H} {queue rs : List Request} {n : Nat} {r : Request}

theorem tally_opened (n : Nat) {x : Adapter H × Scene (Noted β) H} (hn : x.2.bus.2 = []) :
    Tally x.1.book.pending n (Crew.opened n x) where
  queue := rfl
  size := List.length_replicate
  among := by simp [Crew.opened]
  rounds k := by
    have hnone : heldIn (List.replicate n .seeking) k = [] := by
      rw [heldIn, List.getElem?_replicate]
      split <;> rfl
    exact hnone.symm
  sendings := by simp [Crew.sendings, Crew.opened, hn]
  finished := by simp [Crew.opened]

variable (link : Link β)

theorem Tally.ended (h : Tally queue n f) (he : f.errands[k]? = some .seeking)
    (hp : f.pending = []) : Tally queue n (f.advance link k) := by
  rw [Crew.advance_ended link he hp]
  have hbook : (f.world.1.endRound).book = f.world.1.book := book_retireIfGone _
  have hpending : f.world.1.endRound.book.pending = [] := by rw [hbook]; exact hp
  refine ⟨?_, ?_, h.among, fun j => ?_, h.sendings, fun _ => hpending⟩
  · rw [h.queue, hp]
    exact congrArg (_ ++ ·) hpending.symm
  · rw [List.length_set, h.size]
  · have hstep := rounds_step h.rounds he .finished [] [] (by simp) (by simp) rfl j
    rwa [List.append_nil, List.append_nil] at hstep

theorem Tally.took (h : Tally queue n f) (he : f.errands[k]? = some .seeking)
    (hp : f.pending = r :: rs) : Tally queue n (f.advance link k) := by
  have hk : k < n := h.size ▸ (List.getElem?_eq_some_iff.mp he).1
  rw [Crew.advance_took link he hp]
  refine ⟨?_, ?_, ?_, fun j => ?_, h.sendings, fun hover => ?_⟩
  · rw [h.queue, hp, List.map_append, List.append_assoc]
    rfl
  · rw [List.length_set, h.size]
  · intro row hrow
    rcases List.mem_append.mp hrow with hrow | hrow
    · exact h.among row hrow
    · rw [List.mem_singleton.mp hrow]
      exact hk
  · have hstep := rounds_step h.rounds he (.holding r) [(k, r)] [] (by simp) (by simp) rfl j
    rwa [List.append_nil] at hstep
  · rcases List.mem_or_eq_of_mem_set hover with hover | hover
    · rw [h.finished hover] at hp
      cases hp
    · cases hover

theorem Tally.gave (h : Tally queue n f) (he : f.errands[k]? = some (.holding r)) :
    Tally queue n (f.advance link k) := by
  obtain ⟨answer, o, b, m, hone⟩ := dispatchOne_noted link r f.world.1 f.world.2
  rw [Crew.advance_gave link he, hone]
  refine ⟨h.queue, ?_, h.among, fun j => ?_, ?_, fun hover => ?_⟩
  · rw [List.length_set, h.size]
  · have hstep := rounds_step h.rounds he .seeking [] [(k, r)] (by simp) (by simp) rfl j
    rwa [List.append_nil] at hstep
  · have hold : f.world.2.bus.2.map Sending.written = _ := h.sendings
    rw [Crew.sendings, List.map_append, List.map_append, hold]
    rfl
  · rcases List.mem_or_eq_of_mem_set hover with hover | hover
    · exact h.finished hover
    · cases hover

/-- No request is lost or taken twice, and each round keeps the order of the queue. -/
theorem Tally.advance (h : Tally queue n f) (k : Nat) : Tally queue n (f.advance link k) := by
  cases he : f.errands[k]? with
  | none =>
      rw [Crew.advance, he]
      exact h
  | some e =>
      cases e with
      | finished =>
          rw [Crew.advance, he]
          exact h
      | holding r => exact h.gave link he
      | seeking =>
          cases hp : f.pending with
          | nil => exact h.ended link he hp
          | cons r rs => exact h.took link he hp

theorem Tally.run (h : Tally queue n f) (schedule : List Nat) :
    Tally queue n (f.run link schedule) := by
  induction schedule generalizing f with
  | nil => exact h
  | cons k schedule ih => exact ih (h.advance link k)

end Tallies

section Orders

variable {f : Crew β H} {queue : List Request} {n : Nat}

theorem Tally.pending_of_finished (h : Tally queue n f) (hn : 0 < n)
    (hover : ∀ e ∈ f.errands, e = .finished) : f.pending = [] := by
  have hsome : 0 < f.errands.length := by
    rw [h.size]
    exact hn
  obtain ⟨e, he⟩ := List.exists_mem_of_length_pos hsome
  exact h.finished (hover e he ▸ he)

theorem Tally.handed_of_finished (h : Tally queue n f) (hover : ∀ e ∈ f.errands, e = .finished)
    (k : Nat) : f.handed.filter (·.1 = k) = f.taken.filter (·.1 = k) := by
  have hheld : heldIn f.errands k = [] := by
    cases he : f.errands[k]? with
    | none => rw [heldIn, he, Option.elim_none]
    | some e =>
        rw [heldIn_of_getElem? he, hover e (List.mem_of_getElem? he)]
        rfl
  rw [h.rounds, hheld, List.append_nil]

/-- What was written and taken is known in full. -/
theorem sendings_of_written {xs : List Sending} {rows : List (Nat × Request)}
    (h : xs.map Sending.written = rows.map (fun row => (.requests, requestOctets row.2)))
    (hok : ∀ x ∈ xs, x.answer = .ok ()) :
    xs = rows.map (fun row => sendingOf row.2 (.ok ())) := by
  have hsame : xs = (xs.map Sending.written).map (fun w => ⟨w.1, w.2, .ok ()⟩) := by
    rw [List.map_map]
    refine (List.map_id xs).symm.trans (List.map_congr_left (fun x hx => ?_))
    rw [Function.comp_apply, Sending.written, ← hok x hx]
    rfl
  rw [hsame, h, List.map_map]
  rfl

/-- Lists with the same rows of every round have the same rows. -/
theorem mem_iff_of_filter_eq {rows rows' : List (Nat × Request)}
    (h : ∀ k, rows.filter (·.1 = k) = rows'.filter (·.1 = k)) (row : Nat × Request) :
    row ∈ rows ↔ row ∈ rows' := by
  have hmem (rows : List (Nat × Request)) : row ∈ rows ↔ row ∈ rows.filter (·.1 = row.1) := by
    simp
  rw [hmem rows, hmem rows', h]

/-- Rows of one round have an order of their own. -/
theorem eq_of_filter_eq {rows rows' : List (Nat × Request)} {j : Nat}
    (hone : ∀ row ∈ rows', row.1 = j)
    (h : ∀ k, rows.filter (·.1 = k) = rows'.filter (·.1 = k)) : rows = rows' := by
  have hother : ∀ row ∈ rows, row.1 = j :=
    fun row hrow => hone row ((mem_iff_of_filter_eq h row).mp hrow)
  have hrows := h j
  rwa [List.filter_eq_self.mpr (by simpa using hother),
    List.filter_eq_self.mpr (by simpa using hone)] at hrows

/-- The other side reads what was handed over. -/
theorem Crew.received_eq
    (h : f.sendings = f.handed.map (fun row => sendingOf row.2 (.ok ()))) :
    f.received = f.handed.map (·.2) := by
  rw [received, h, List.filterMap_map, ← List.filterMap_eq_map]
  exact List.filterMap_congr (fun row _ => Generator.readRequest_text row.2)

variable {link : Link β} {x : Adapter H × Scene (Noted β) H}

/-- When all rounds are over and the bus has taken all that was handed to it: each request of the
queue was taken and handed over by one of the rounds, and each round handed its own requests over in
the order of the queue.  The other side reads them in the order in which they were handed over.
That leaves every registry as the order of the queue would just if the same subscriptions are in
force at the ends of both orders; it does if there is only one round. -/
theorem overlapping_rounds (hn : 0 < n) (hnone : x.2.bus.2 = []) {schedule : List Nat}
    (hf : (Crew.opened n x).run link schedule = f) (hover : ∀ e ∈ f.errands, e = .finished)
    (hok : ∀ sending ∈ f.sendings, sending.answer = .ok ()) :
    (f.taken.map (·.2) = x.1.book.pending ∧ (∀ row ∈ f.taken, row.1 < n) ∧
      ∀ k, f.handed.filter (·.1 = k) = f.taken.filter (·.1 = k)) ∧
    f.sendings = f.handed.map (fun row => sendingOf row.2 (.ok ())) ∧
    f.received = f.handed.map (·.2) ∧
    ((∀ g : Gate, g.applyAll f.received = g.applyAll x.1.book.pending) ↔
      ∀ i m, Gate.Registered i m (f.received.map .ofRequest) ↔
        Gate.Registered i m (x.1.book.pending.map .ofRequest)) ∧
    (n = 1 → f.received = x.1.book.pending) := by
  subst hf
  have h := (tally_opened n hnone).run link schedule
  generalize (Crew.opened n x).run link schedule = f at hover hok h
  have htaken : f.taken.map (·.2) = x.1.book.pending := by
    rw [h.queue, h.pending_of_finished hn hover, List.append_nil]
  have hrounds := h.handed_of_finished hover
  have hsendings := sendings_of_written h.sendings hok
  have hreceived := Crew.received_eq hsendings
  have hmem : ∀ r, r ∈ f.received ↔ r ∈ x.1.book.pending := by
    intro r
    rw [hreceived, ← htaken, List.mem_map, List.mem_map]
    simp only [mem_iff_of_filter_eq hrounds]
  refine ⟨⟨htaken, h.among, hrounds⟩, hsendings, hreceived, Gate.applyAll_eq_iff hmem, ?_⟩
  rintro rfl
  have hfirst : ∀ row ∈ f.taken, row.1 = 0 := fun row hrow => Nat.lt_one_iff.mp (h.among row hrow)
  rw [hreceived, eq_of_filter_eq hfirst hrounds, htaken]

end Orders

section Demonstration

/-- Another item than the usual one. -/
def demoOther : Item := ⟨⟨7, by decide⟩⟩

/-- A replay waits, and a subscription that the consumer made right after it. -/
def demoCalls : List (Act (Noted Recorder) String) :=
  [.start, .dial 0, .subscribe "item7" "first", .receive (Message.heartbeat 5).encode,
    .subscribe "item8" "second"]

/-- The adapter after these calls, with the two rounds that they asked for. -/
def demoCrew : Crew Recorder String :=
  .opened 2 (Adapter.run Recorder.link.noted demoCalls demoNoted)

theorem demoCrew_pending : demoCrew.world.1.rounds = 2 ∧
    demoCrew.pending = [.reset, .subscribe demoItem 1, .subscribe demoOther 2] := by
  decide +kernel

/-- The replay is split among the rounds, and its subscription comes last. -/
def demoSchedule : List Nat := [0, 0, 0, 1, 1, 1, 0, 0]

/-- Subscriptions of two items change places, and nobody is the worse for it. -/
theorem overlapping_rounds_demo :
    ∃ f, demoCrew.run Recorder.link demoSchedule = f ∧
      f.received = [.reset, .subscribe demoOther 2, .subscribe demoItem 1] ∧
      f.taken = [(0, .reset), (0, .subscribe demoItem 1), (1, .subscribe demoOther 2)] ∧
      f.handed.filter (·.1 = 0) = [(0, .reset), (0, .subscribe demoItem 1)] ∧
      ∀ g : Gate, g.applyAll f.received = g.applyAll demoCrew.pending := by
  have hend : (∀ e ∈ (demoCrew.run Recorder.link demoSchedule).errands, e = .finished) ∧
      (∀ sending ∈ (demoCrew.run Recorder.link demoSchedule).sendings,
        sending.answer = .ok ()) ∧
      (demoCrew.run Recorder.link demoSchedule).received =
        [.reset, .subscribe demoOther 2, .subscribe demoItem 1] ∧
      (demoCrew.run Recorder.link demoSchedule).taken =
        [(0, .reset), (0, .subscribe demoItem 1), (1, .subscribe demoOther 2)] := by
    decide +kernel
  obtain ⟨hover, hok, hreceived, htaken⟩ := hend
  obtain ⟨⟨-, -, hrounds⟩, -, -, hsame, -⟩ :=
    overlapping_rounds (by decide : 0 < 2) (by decide +kernel)
      (rfl : demoCrew.run Recorder.link demoSchedule = _) hover hok
  refine ⟨_, rfl, hreceived, htaken, ?_, hsame.mpr (fun i m => ?_)⟩
  · rw [hrounds, htaken]
    decide
  · have horder : ([.reset, .subscribe demoOther 2, .subscribe demoItem 1].map
          Gate.Op.ofRequest).filter (Gate.Op.touches i) =
        ([.reset, .subscribe demoItem 1, .subscribe demoOther 2].map
          Gate.Op.ofRequest).filter (Gate.Op.touches i) := by
      obtain ⟨k⟩ := i
      revert k
      decide
    have hpending : demoCrew.world.1.book.pending = _ := demoCrew_pending.2
    rw [hreceived]
    show _ ↔ Gate.Registered i m (demoCrew.world.1.book.pending.map .ofRequest)
    rw [hpending, ← Gate.registered_filter_iff, horder, Gate.registered_filter_iff]

/-- Rounds that an adapter asked for can leave the other side with another registry than the queue
would: one of them takes the reset and the other one hands over all subscriptions before the reset
comes.  They are lost. -/
theorem reset_overtaken :
    ¬ ∀ (x : Adapter String × Scene (Noted Recorder) String) (schedule : List Nat)
      (f : Crew Recorder String), Reached Recorder.link.noted x → x.2.bus.2 = [] →
      (Crew.opened x.1.rounds x).run Recorder.link schedule = f →
      (∀ e ∈ f.errands, e = .finished) → (∀ sending ∈ f.sendings, sending.answer = .ok ()) →
      ∀ g : Gate, g.applyAll f.received = g.applyAll x.1.book.pending := by
  intro heach
  have hreached :
      Reached Recorder.link.noted (Adapter.run Recorder.link.noted demoCalls demoNoted) :=
    ⟨demoNoted, demoCalls, ⟨⟨.brisk, rfl⟩, rfl⟩, rfl⟩
  have hsame := heach _ [0, 1, 1, 1, 1, 1, 0, 0] _ hreached (by decide +kernel) rfl
    (by decide +kernel) (by decide +kernel) .empty
  have hlost := congrArg (fun g => g.tenure? demoItem) hsame
  revert hlost
  decide +kernel

end Demonstration

end Adapter
end QuoteBridge
