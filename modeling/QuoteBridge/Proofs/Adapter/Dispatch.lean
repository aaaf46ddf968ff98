import QuoteBridge.Proofs.Adapter.Ledger
import QuoteBridge.Proofs.Generator.Effects
import QuoteBridge.Proofs.Outbox.Sends

/-!
# Conservation of requests

Whoever queues requests asks for a dispatch round, and a round sends whatever waits.  As long as no
two rounds overlap, what is handed to the bus is what was queued, in that order, but for the requests
that a replay made obsolete.

**Rounds.**  A round keeps everybody from the queue while it runs, so nothing is queued or dropped
before it is over.  Which one of the rounds that were asked for runs next is open.

**Results.**
* `Adapter.perform_queues`: what an act does to the queue, and whether it asks for a round.
* `Adapter.dispatchRound_noted`: a round hands over all waiting requests, each of them once.
* `Adapter.Conserved.serve`: every deed conserves requests and rounds.
* `Adapter.requests_conserved`: so does every run.
-/

namespace QuoteBridge

section Notes

variable {β : Type}

/-- The traffic of some payloads that were handed to a bus. -/
def volumeOf (xs : List Sending) : Volume :=
  xs.foldr (fun x t => .ofSend x.channel x.answer + t) 0

theorem volumeOf_append (xs ys : List Sending) :
    volumeOf (xs ++ ys) = volumeOf xs + volumeOf ys := by
  induction xs with
  | nil => exact (Volume.zero_add _).symm
  | cons x xs ih =>
      have hcons (zs : List Sending) :
          volumeOf (x :: zs) = .ofSend x.channel x.answer + volumeOf zs := rfl
      rw [List.cons_append, hcons, hcons, ih, Volume.add_assoc]

/-- The traffic is what was noted. -/
def Meter.ofNotes (β : Type) : Meter (Noted β) where
  carries b t b' := ∃ more, b'.2 = b.2 ++ more ∧ t = volumeOf more
  none b := ⟨[], (List.append_nil b.2).symm, rfl⟩
  more := by
    rintro b b' b'' t t' ⟨more, hb, rfl⟩ ⟨more', hb', rfl⟩
    exact ⟨more ++ more', by rw [hb', hb, List.append_assoc], (volumeOf_append more more').symm⟩

theorem Meter.reads_noted (link : Link β) : (Meter.ofNotes β).Reads link.noted where
  connect _ b := ⟨[], (List.append_nil b.2).symm, rfl⟩
  reset _ b := ⟨[], (List.append_nil b.2).symm, rfl⟩
  listen _ b := ⟨[], (List.append_nil b.2).symm, rfl⟩
  send now ch p b := ⟨[⟨ch, p, (link.send now ch p b.1).1⟩], rfl, rfl⟩

end Notes

namespace Adapter

variable {β H : Type}

section Queueing

/-- Whether an act is no part of a dispatch round and leaves the bus to the link. -/
def Act.isCall : Act β H → Bool
  | .send => false
  | .endRound => false
  | .changeBus _ => false
  | _ => true

/-- The requests that an act queues. -/
def queues (act : Act β H) (x : Adapter H × Scene β H) : List Request :=
  match act with
  | .subscribe name _ =>
      match Item.parse name with
      | .ok i => if x.1.book.liveness.isFeedUp then [.subscribe i x.1.book.nextId] else []
      | .error _ => []
  | .unsubscribe name =>
      match Item.parse name with
      | .ok i =>
          if x.1.book.liveness.isFeedUp then
            (x.1.book.subscriptions.get? i).toList.map (fun sub => .unsubscribe i sub.id)
          else []
      | .error _ => []
  | .receive p => if (renewal? p x.1).isSome then x.1.book.replay else []
  | _ => []

/-- The waiting requests that an act drops. -/
def drops (act : Act β H) (x : Adapter H × Scene β H) : List Request :=
  match act with
  | .receive p => if (renewal? p x.1).isSome then x.1.book.pending else []
  | _ => []

/-- Between two states some waiting requests were dropped and others were queued, and a round was
asked for if there are any. -/
structure Queued (x y : Adapter H × Scene (Noted β) H) (dropped queued : List Request) : Prop where
  waiting : ∃ kept, x.1.book.pending = dropped ++ kept ∧ y.1.book.pending = kept ++ queued
  rounds : y.1.rounds = x.1.rounds + if queued.isEmpty then 0 else 1
  notes : y.2.bus.2 = x.2.bus.2

variable {x y : Adapter H × Scene (Noted β) H}

theorem Queued.none (hp : y.1.book.pending = x.1.book.pending) (hr : y.1.rounds = x.1.rounds)
    (hn : y.2.bus.2 = x.2.bus.2) : Queued x y [] [] :=
  ⟨⟨x.1.book.pending, rfl, by rw [hp, List.append_nil]⟩, hr, hn⟩

theorem Queued.one {r : Request} (hp : y.1.book.pending = x.1.book.pending ++ [r])
    (hr : y.1.rounds = x.1.rounds + 1) (hn : y.2.bus.2 = x.2.bus.2) : Queued x y [] [r] :=
  ⟨⟨x.1.book.pending, rfl, hp⟩, hr, hn⟩

variable (link : Link β)

theorem subscribe_queues (name : String) (handle : H) (a : Adapter H) (s : Scene (Noted β) H) :
    Queued (a, s) (subscribe name handle a s).2 [] (queues (.subscribe name handle) (a, s)) := by
  simp only [queues]
  cases hi : Item.parse name with
  | error e =>
      rw [subscribe_of_refused hi]
      exact .none rfl rfl rfl
  | ok i =>
      by_cases hu : a.epoch?.isSome = true
      · have hup : a.book.liveness.isFeedUp = true := hu
        rw [subscribe_of_known hi hu]
        simp only [hup, if_true]
        exact .one rfl rfl rfl
      · have hdown : a.book.liveness.isFeedUp = false := Bool.eq_false_iff.mpr hu
        obtain ⟨m, h⟩ := subscribe_of_unknown hi (by simpa using hu) handle s
        rw [h]
        simp only [hdown, Bool.false_eq_true, if_false]
        exact .none rfl rfl rfl

theorem unsubscribe_queues (name : String) (a : Adapter H) (s : Scene (Noted β) H) :
    Queued (a, s) ((unsubscribe name a).2, s) [] (queues (.unsubscribe name) (a, s)) := by
  simp only [queues]
  cases hi : Item.parse name with
  | error e =>
      rw [unsubscribe_of_error hi]
      exact .none rfl rfl rfl
  | ok i =>
      cases hs : a.book.subscriptions.get? i with
      | none =>
          rw [unsubscribe_of_none hi hs]
          simp only [hs, Option.toList_none, List.map_nil, ite_self]
          exact .none rfl rfl rfl
      | some sub =>
          rw [unsubscribe_of_some hi hs]
          by_cases hu : a.epoch?.isSome = true
          · have hup : a.book.liveness.isFeedUp = true := hu
            simp only [hs, hu, hup, if_true, Option.toList_some, List.map_cons, List.map_nil]
            exact .one rfl rfl rfl
          · have hdown : a.book.liveness.isFeedUp = false := Bool.eq_false_iff.mpr hu
            simp only [hu, hdown, Bool.false_eq_true, if_false]
            exact .none rfl rfl rfl

theorem receive_queues (p : Payload) (a : Adapter H) (s : Scene (Noted β) H) :
    Queued (a, s) (receive p a s) (drops (.receive p) (a, s)) (queues (.receive p) (a, s)) := by
  simp only [queues, drops]
  generalize hr : receive p a s = r
  cases hr ▸ receive_effect p a s with
  | ignored m hm =>
      have hnone : renewal? p a = none := by simp [renewal?, hm]
      rw [hnone]
      exact .none rfl rfl rfl
  | anew msg m hm he =>
      rw [renewal?_of_new hm he]
      exact ⟨⟨[], (List.append_nil _).symm, rfl⟩, rfl, rfl⟩
  | known msg m hm he hu =>
      rw [renewal?_of_known hm he]
      exact .none rfl rfl rfl
  | delivered u sub m hm he hs hid =>
      rw [renewal?_of_known hm he]
      exact .none rfl rfl rfl

theorem rounds_retireIfGone (a : Adapter H) : a.retireIfGone.rounds = a.rounds := by
  unfold retireIfGone
  split <;> rfl

variable {link} in
/-- Supervisors leave the queue alone. -/
theorem superviseFrom_queues {a : Adapter H} {s : Scene (Noted β) H}
    {r : Adapter H × Scene (Noted β) H} {vs done : List Supervisor}
    (h : superviseFrom link.noted a s done vs = some r) : Queued (a, s) r [] [] := by
  obtain ⟨v, others, left, w, hw, rfl⟩ := superviseFrom_turn h
  have hsame : w.1.book.pending = a.book.pending ∧ w.1.rounds = a.rounds ∧
      w.2.bus.2 = s.bus.2 := by
    rw [hw]
    refine Supervisor.turn_induction (dialer link.noted)
      (P := fun w : Adapter H × Scene (Noted β) H => w.1.book.pending = a.book.pending ∧
        w.1.rounds = a.rounds ∧ w.2.bus.2 = s.bus.2)
      (fun w h => h) (fun w h => h) (fun w h => ?_) (fun _ w h => h) (fun w h => h) s.now v
      ⟨rfl, rfl, rfl⟩
    rw [dialer, book_retireIfGone, rounds_retireIfGone]
    exact h
  exact .none hsame.1 hsame.2.1 hsame.2.2

/-- What an act does to the queue, and whether it asks for a round. -/
theorem perform_queues {act : Act (Noted β) H} (h : act.isCall = true)
    (x : Adapter H × Scene (Noted β) H) :
    Queued x (perform link.noted act x) (drops act x) (queues act x) := by
  obtain ⟨a, s⟩ := x
  cases act with
  | start => exact .none rfl rfl rfl
  | subscribe name handle => exact subscribe_queues name handle a s
  | unsubscribe name => exact unsubscribe_queues name a s
  | receive p => exact receive_queues p a s
  | lose =>
      obtain ⟨subs, m, notes, -, hlost⟩ := transportError_effect a s
      simp only [perform, hlost]
      exact .none rfl rfl rfl
  | send => cases h
  | endRound => cases h
  | dial place =>
      simp only [perform]
      cases hd : superviseFrom link.noted a s (a.supervisors.take place)
          (a.supervisors.drop place) with
      | none => exact .none rfl rfl rfl
      | some r => exact superviseFrom_queues hd
  | look place =>
      simp only [perform]
      cases hw : watchFrom a s (a.watchdogs.take place) (a.watchdogs.drop place) with
      | none => exact .none rfl rfl rfl
      | some r =>
          obtain ⟨ws, rfl⟩ | ⟨ws, rfl⟩ := watchFrom_effect hw
          · exact .none rfl rfl rfl
          · obtain ⟨subs, m, notes, -, hd⟩ := degrade_effect .producer a s
            rw [hd]
            exact .none rfl rfl rfl
  | shutdown => exact .none rfl rfl rfl
  | release =>
      refine .none ?_ (rounds_retireIfGone _) rfl
      show (retireIfGone _).book.pending = _
      rw [book_retireIfGone]
  | wait span => exact .none rfl rfl rfl
  | changeBus b => cases h

end Queueing

section Rounds

variable (link : Link β)

theorem dispatchOne_noted (r : Request) (a : Adapter H) (s : Scene (Noted β) H) :
    ∃ answer o b m, dispatchOne link.noted r a s =
      ({ a with outbox := o },
        { s with bus := (b, s.bus.2 ++ [sendingOf r answer]), metrics := m }) := by
  obtain ⟨o, m, h⟩ := dispatchOne_through link.noted r a s
  exact ⟨_, o, _, m, h⟩

/-- Requests that are sent in turn are handed over once each. -/
theorem dispatchAll_noted (rs : List Request) (a : Adapter H) (s : Scene (Noted β) H) :
    ∃ rows : List (Request × BusResult), rows.map (·.1) = rs ∧
      ∃ o b m, dispatchAll link.noted rs a s =
        ({ a with outbox := o },
          { s with
            bus := (b, s.bus.2 ++ rows.map (fun row => sendingOf row.1 row.2))
            metrics := m }) := by
  induction rs generalizing a s with
  | nil =>
      refine ⟨[], rfl, a.outbox, s.bus.1, s.metrics, ?_⟩
      simp [dispatchAll]
  | cons r rs ih =>
      obtain ⟨answer, o, b, m, hone⟩ := dispatchOne_noted link r a s
      obtain ⟨rows, hrows, o', b', m', hrest⟩ := ih { a with outbox := o }
        { s with bus := (b, s.bus.2 ++ [sendingOf r answer]), metrics := m }
      refine ⟨(r, answer) :: rows, by rw [List.map_cons, hrows], o', b', m', ?_⟩
      simp only [dispatchAll, hone, hrest, List.map_cons, List.append_assoc, List.singleton_append]

/-- A round hands over all waiting requests, each of them once. -/
theorem dispatchRound_noted (a : Adapter H) (s : Scene (Noted β) H) :
    (dispatchRound link.noted a s).1.book.pending = [] ∧
      (dispatchRound link.noted a s).1.rounds = a.rounds - 1 ∧
      ∃ rows : List (Request × BusResult), rows.map (·.1) = a.book.pending ∧
        (dispatchRound link.noted a s).2.bus.2 =
          s.bus.2 ++ rows.map (fun row => sendingOf row.1 row.2) := by
  obtain ⟨rows, hrows, o, b, m, hall⟩ := dispatchAll_noted link a.book.pending
    { a with book := a.book.clearPending } s
  rw [dispatchRound, hall]
  refine ⟨?_, rounds_retireIfGone _, rows, hrows, rfl⟩
  rw [book_retireIfGone]
  rfl

end Rounds

section Runs

/-- Something that happens to an adapter whose rounds run one at a time.  A place is one in the list
of rounds that have not run yet. -/
inductive Deed (β H : Type)
  | act (a : Act (Noted β) H) (h : a.isCall = true)
  | changeBus (b : β)
  | round (place : Nat)

/-- An adapter with all requests that were queued and dropped so far.  `waiting` has, for each round
that was asked for and has not run yet, the number of requests that were queued when it was asked
for. -/
structure Docket (β H : Type) where
  world : Adapter H × Scene (Noted β) H
  queued : List Request
  dropped : List Request
  waiting : List Nat

namespace Docket

/-- The requests that wait. -/
def pending (z : Docket β H) : List Request := z.world.1.book.pending

/-- What was handed to the bus. -/
def sendings (z : Docket β H) : List Sending := z.world.2.bus.2

/-- Nothing has happened yet. -/
def start (x : Adapter H × Scene (Noted β) H) : Docket β H := ⟨x, [], [], []⟩

def serve (link : Link β) : Deed β H → Docket β H → Docket β H
  | .act a _, z =>
      let new := queues a z.world
      { world := perform link.noted a z.world
        queued := z.queued ++ new
        dropped := z.dropped ++ drops a z.world
        waiting :=
          if new.isEmpty then z.waiting else z.waiting ++ [z.queued.length + new.length] }
  | .changeBus b, z =>
      { z with world := (z.world.1, { z.world.2 with bus := (b, z.world.2.bus.2) }) }
  | .round place, z =>
      if place < z.waiting.length then
        { z with
          world := dispatchRound link.noted z.world.1 z.world.2
          waiting := z.waiting.eraseIdx place }
      else z

/-- Does deeds in turn. -/
def serveAll (link : Link β) (deeds : List (Deed β H)) (z : Docket β H) : Docket β H :=
  deeds.foldl (fun z deed => serve link deed z) z

end Docket

/-- A request that was queued and does not wait any more, with the answer of the bus if it was
handed over. -/
abbrev Closed := Request × Option BusResult

/-- What is noted of a request if it was handed over. -/
def Closed.sending? (row : Closed) : Option Sending := row.2.map (sendingOf row.1)

/-- The rows account for all queued requests that do not wait any more: what was handed over and what
was dropped, in the order of the queue.  A round for each request that waits is still to come. -/
structure Conserved (z : Docket β H) (rows : List Closed) : Prop where
  queued : z.queued = rows.map (·.1) ++ z.pending
  sendings : z.sendings = rows.filterMap Closed.sending?
  dropped : z.dropped = (rows.filter (·.2.isNone)).map (·.1)
  waiting : z.waiting.length = z.world.1.rounds
  toCome : z.pending ≠ [] → z.queued.length ∈ z.waiting

theorem sendings_of_dropped (rs : List Request) :
    (rs.map (fun r => ((r, none) : Closed))).filterMap Closed.sending? = [] := by
  simp [List.filterMap_eq_nil_iff, Closed.sending?]

theorem dropped_of_dropped (rs : List Request) :
    ((rs.map (fun r => ((r, none) : Closed))).filter (·.2.isNone)).map (·.1) = rs := by
  rw [List.filter_eq_self.mpr (by simp)]
  simp [Function.comp_def]

theorem dropped_of_handed (sent : List (Request × BusResult)) :
    (sent.map (fun row => ((row.1, some row.2) : Closed))).filter (·.2.isNone) = [] := by
  refine List.filter_eq_nil_iff.mpr (fun row hm => ?_)
  obtain ⟨row', -, rfl⟩ := List.mem_map.mp hm
  simp

theorem sendings_of_handed (sent : List (Request × BusResult)) :
    (sent.map (fun row => ((row.1, some row.2) : Closed))).filterMap Closed.sending? =
      sent.map (fun row => sendingOf row.1 row.2) := by
  rw [List.filterMap_map, ← List.filterMap_eq_map]
  rfl

variable (link : Link β) {z : Docket β H} {rows : List Closed}

theorem Conserved.act (h : Conserved z rows) (a : Act (Noted β) H) (ha : a.isCall = true) :
    ∃ rows', Conserved (z.serve link (.act a ha)) rows' := by
  obtain ⟨⟨kept, hold, hnew⟩, hrounds, hnotes⟩ := perform_queues link ha z.world
  refine ⟨rows ++ (drops a z.world).map (fun r => (r, none)), ?_, ?_, ?_, ?_, ?_⟩
  · show z.queued ++ queues a z.world = _ ++ (perform link.noted a z.world).1.book.pending
    rw [h.queued, hnew, Docket.pending, hold]
    simp [Function.comp_def]
  · show (perform link.noted a z.world).2.bus.2 = _
    rw [hnotes, List.filterMap_append, sendings_of_dropped, List.append_nil]
    exact h.sendings
  · show z.dropped ++ drops a z.world = _
    rw [h.dropped, List.filter_append, List.map_append, dropped_of_dropped]
  · show (if _ then _ else _ : List Nat).length = (perform link.noted a z.world).1.rounds
    rw [hrounds, ← h.waiting]
    split <;> simp
  · intro hp
    show (z.queued ++ queues a z.world).length ∈ (if _ then _ else _ : List Nat)
    rw [List.length_append]
    split
    · rename_i hnone
      rw [List.isEmpty_iff.mp hnone, List.append_nil] at hnew
      rw [List.isEmpty_iff.mp hnone]
      refine h.toCome (fun hwait => hp ?_)
      have hempty : drops a z.world ++ kept = [] := hold.symm.trans hwait
      exact hnew.trans (List.append_eq_nil_iff.mp hempty).2
    · simp

theorem Conserved.served (h : Conserved z rows) (place : Nat) :
    ∃ rows', Conserved (z.serve link (.round place)) rows' := by
  simp only [Docket.serve]
  split
  · rename_i hplace
    obtain ⟨hp, hrounds, sent, hsent, hnotes⟩ :=
      dispatchRound_noted link z.world.1 z.world.2
    refine ⟨rows ++ sent.map (fun row => (row.1, some row.2)), ?_, ?_, ?_, ?_, fun hne => ?_⟩
    · show z.queued = _ ++ (dispatchRound link.noted z.world.1 z.world.2).1.book.pending
      rw [h.queued, hp, Docket.pending, ← hsent]
      simp [Function.comp_def]
    · show (dispatchRound link.noted z.world.1 z.world.2).2.bus.2 = _
      have hold : z.world.2.bus.2 = rows.filterMap Closed.sending? := h.sendings
      rw [hnotes, hold, List.filterMap_append, sendings_of_handed]
    · show z.dropped = _
      rw [h.dropped, List.filter_append, dropped_of_handed, List.append_nil]
    · show (z.waiting.eraseIdx place).length = _
      rw [hrounds, ← h.waiting, List.length_eraseIdx_of_lt hplace]
    · exact absurd hp hne
  · exact ⟨rows, h⟩

/-- Every deed conserves requests and rounds. -/
theorem Conserved.serve (h : Conserved z rows) (deed : Deed β H) :
    ∃ rows', Conserved (z.serve link deed) rows' := by
  cases deed with
  | act a ha => exact h.act link a ha
  | changeBus b => exact ⟨rows, h.queued, h.sendings, h.dropped, h.waiting, h.toCome⟩
  | round place => exact h.served link place

theorem Conserved.serveAll (h : Conserved z rows) (deeds : List (Deed β H)) :
    ∃ rows', Conserved (z.serveAll link deeds) rows' := by
  induction deeds generalizing z rows with
  | nil => exact ⟨rows, h⟩
  | cons deed deeds ih =>
      obtain ⟨rows', h'⟩ := h.serve link deed
      exact ih h'

end Runs

section Counters

/-- Whether a request was handed over and taken. -/
def Closed.isTaken (row : Closed) : Bool := row.2.any Except.isOk

/-- Whether a request was handed over and refused. -/
def Closed.isRefused (row : Closed) : Bool := row.2.any (fun answer => !answer.isOk)

theorem volumeOf_rows (rows : List Closed) :
    volumeOf (rows.filterMap Closed.sending?) =
      ⟨rows.countP Closed.isTaken, rows.countP Closed.isRefused, 0⟩ := by
  induction rows with
  | nil => rfl
  | cons row rows ih =>
      have hrow : volumeOf ((row :: rows).filterMap Closed.sending?) =
          ⟨if row.isTaken then 1 else 0, if row.isRefused then 1 else 0, 0⟩ +
            volumeOf (rows.filterMap Closed.sending?) := by
        obtain ⟨r, answer⟩ := row
        cases answer with
        | none => exact (Volume.zero_add _).symm
        | some answer => cases answer <;> rfl
      rw [hrow, ih, List.countP_cons, List.countP_cons]
      simp only [Volume.add_def, Nat.add_comm]

variable (link : Link β)

theorem booked_serve (deed : Deed β H) (z : Docket β H) :
    ∃ ps, Scene.Booked (.ofNotes β) z.world.2 ps (z.serve link deed).world.2 := by
  cases deed with
  | act a ha =>
      exact ⟨_, booked_perform (Meter.reads_noted link) a z.world
        (fun b hb => by rw [hb] at ha; cases ha)⟩
  | changeBus b =>
      have hmoved : Scene.Entry (.ofNotes β) z.world.2 []
          { z.world.2 with bus := (b, z.world.2.bus.2) } :=
        .moved ⟨[], (List.append_nil _).symm, rfl⟩
      exact ⟨_, hmoved.booked⟩
  | round place =>
      simp only [Docket.serve]
      split
      · exact ⟨_, booked_dispatchAll (Meter.reads_noted link) z.world.1.book.pending _ z.world.2⟩
      · exact ⟨_, .refl⟩

theorem booked_serveAll (deeds : List (Deed β H)) (z : Docket β H) :
    ∃ ps, Scene.Booked (.ofNotes β) z.world.2 ps (z.serveAll link deeds).world.2 := by
  induction deeds generalizing z with
  | nil => exact ⟨[], .refl⟩
  | cons deed deeds ih =>
      obtain ⟨ps, h⟩ := booked_serve link deed z
      obtain ⟨qs, h'⟩ := ih (z.serve link deed)
      exact ⟨ps ++ qs, h.trans h'⟩

end Counters

section Conservation

variable {link : Link β} {x : Adapter H × Scene (Noted β) H}

theorem conserved_start (hx : IsFresh x) (hn : x.2.bus.2 = []) :
    Conserved (Docket.start x) [] := by
  obtain ⟨c, hc⟩ := hx.created
  obtain ⟨o, ho⟩ := eq_of_create hc
  have hpending : (Docket.start x).pending = [] := by
    rw [Docket.pending, Docket.start, ho]
    rfl
  refine ⟨hpending.symm, hn, rfl, ?_, fun h => absurd hpending h⟩
  show 0 = x.1.rounds
  rw [ho]

/-- After any run in which no two rounds overlap: the rows have all requests that were queued, in
that order, but for those that still wait; those that a replay dropped are marked so, and just the
others were handed to the bus, once each and in that order.  They are counted by the answer of the
bus.  While a request waits there is a round to come that was asked for when all requests were
queued, so that none waits when no round is to come. -/
theorem requests_conserved (hx : IsFresh x) (hn : x.2.bus.2 = [])
    (hzero : x.2.metrics.outbound = 0) {deeds : List (Deed β H)} {z : Docket β H}
    (hz : (Docket.start x).serveAll link deeds = z) :
    (∃ rows : List Closed,
      z.queued = rows.map (·.1) ++ z.pending ∧
      z.dropped = (rows.filter (·.2.isNone)).map (·.1) ∧
      z.sendings = rows.filterMap Closed.sending? ∧
      z.world.2.metrics.count .requestsDispatched = rows.countP Closed.isTaken ∧
      z.world.2.metrics.count .requestsFailed = rows.countP Closed.isRefused) ∧
    z.waiting.length = z.world.1.rounds ∧
    (z.pending ≠ [] → z.queued.length ∈ z.waiting) ∧
    (z.world.1.rounds = 0 → z.pending = []) := by
  subst hz
  obtain ⟨rows, h⟩ := (conserved_start hx hn).serveAll link deeds
  obtain ⟨ps, hbooked⟩ := booked_serveAll link deeds (Docket.start x)
  obtain ⟨t, ⟨more, hmore, rfl⟩, hcounted⟩ := hbooked.outbound
  have hnotes : more = rows.filterMap Closed.sending? := by
    have hstart : (Docket.start x).world.2.bus.2 = [] := hn
    rw [hstart, List.nil_append] at hmore
    exact hmore.symm.trans h.sendings
  have hcount : ((Docket.start x).serveAll link deeds).world.2.metrics.outbound =
      ⟨rows.countP Closed.isTaken, rows.countP Closed.isRefused, 0⟩ := by
    have hstart : (Docket.start x).world.2.metrics.outbound = 0 := hzero
    rw [hcounted, hstart, hnotes, volumeOf_rows, Volume.zero_add]
  refine ⟨⟨rows, h.queued, h.dropped, h.sendings, ?_, ?_⟩, h.waiting, h.toCome, fun hr => ?_⟩
  · exact congrArg Volume.requests hcount
  · exact congrArg Volume.refusals hcount
  · have hnone := List.length_eq_zero_iff.mp (h.waiting.trans hr)
    cases hp : ((Docket.start x).serveAll link deeds).pending with
    | nil => rfl
    | cons r rs =>
        have hmem := h.toCome (by simp [hp])
        rw [hnone] at hmem
        cases hmem

end Conservation

section Demonstration

/-- The small adapter over a recorder with notes. -/
def demoNoted : Adapter String × Scene (Noted Recorder) String :=
  (demo, .initial 0 (Recorder.create [], []))

/-- A replay and a subscription are sent, the latter in vain, and a second replay drops the request
that waits. -/
def demoDeeds : List (Deed Recorder String) :=
  [.act .start rfl, .act (.dial 0) rfl, .act (.subscribe "item7" "first") rfl,
    .act (.receive (Message.heartbeat 5).encode) rfl, .round 0,
    .changeBus { Recorder.create [] with failing := some .notReady },
    .act (.subscribe "item07" "second") rfl, .round 0, .act (.unsubscribe "item7") rfl,
    .act (.receive (Message.heartbeat 6).encode) rfl]

/-- Two requests were taken, one was refused, one was dropped, and the last one waits for one of the
two rounds to come. -/
theorem requests_conserved_demo :
    ∃ z, (Docket.start demoNoted).serveAll Recorder.link demoDeeds = z ∧
      z.dropped = [.unsubscribe demoItem 2] ∧ z.pending = [.reset] ∧ z.queued.length ∈ z.waiting ∧
      ∃ rows : List Closed, rows.map (·.1) ++ [.reset] =
          [.reset, .subscribe demoItem 1, .subscribe demoItem 2, .unsubscribe demoItem 2, .reset] ∧
        rows.countP Closed.isTaken = 2 ∧ rows.countP Closed.isRefused = 1 := by
  have hfresh : IsFresh demoNoted := ⟨⟨.brisk, rfl⟩, rfl⟩
  obtain ⟨⟨rows, hqueued, -, -, htaken, hrefused⟩, -, htoCome, -⟩ :=
    requests_conserved hfresh rfl rfl
      (rfl : (Docket.start demoNoted).serveAll Recorder.link demoDeeds = _)
  have hstate : ((Docket.start demoNoted).serveAll Recorder.link demoDeeds).dropped =
        [.unsubscribe demoItem 2] ∧
      ((Docket.start demoNoted).serveAll Recorder.link demoDeeds).pending = [.reset] ∧
      ((Docket.start demoNoted).serveAll Recorder.link demoDeeds).queued =
        [.reset, .subscribe demoItem 1, .subscribe demoItem 2, .unsubscribe demoItem 2, .reset] := by
    decide +kernel
  have hcount : ((Docket.start demoNoted).serveAll Recorder.link demoDeeds).world.2.metrics.count
        .requestsDispatched = 2 ∧
      ((Docket.start demoNoted).serveAll Recorder.link demoDeeds).world.2.metrics.count
        .requestsFailed = 1 := by
    decide +kernel
  refine ⟨_, rfl, hstate.1, hstate.2.1, htoCome (by simp [hstate.2.1]), rows, ?_,
    htaken.symm.trans hcount.1, hrefused.symm.trans hcount.2⟩
  rw [← hstate.2.2, hqueued, hstate.2.1]

end Demonstration

end Adapter
end QuoteBridge
