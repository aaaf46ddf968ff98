import QuoteBridge.Proofs.Adapter.Run
import QuoteBridge.Proofs.Feed.Run

/-!
# Shutdown is final

Once a feed was shut down, nothing that was under way comes back: supervisors have been overtaken,
watchdogs find no producer run, requests that still wait are refused, and the generator's tasks are
gone.

**Input.**  A feed after any run, shut down at any moment, and any run after that without another
start.

**Results.**
* `Duo.Staffed.shutdown`: what the shutdown leaves behind, whatever state it met.
* `Duo.Stopped.piece`, `Duo.Stopped.call`: nothing that happens later changes that.
* `Feed.shutdown_is_final`: the feed stays down, and its consumer hears nothing but the answers to
  later subscriptions.
-/

namespace QuoteBridge

section Counting

variable {β H : Type} {link : Link β} (side : Role) (ok : Bool)

/-- How often a side tried to connect with the given result. -/
def Scene.attempts (s : Scene β H) : Nat := s.metrics.count (.attempts side ok)

variable {c : Counter}

theorem Scene.attempts_count (s : Scene β H) (hc : .attempts side ok ≠ c) :
    (s.count c).attempts side ok = s.attempts side ok :=
  Metrics.count_bump_of_ne s.metrics hc

theorem Metrics.attempts_noteGrowth (before after : Pool) (m : Metrics) :
    (m.noteGrowth before after).count (.attempts side ok) = m.count (.attempts side ok) := by
  unfold noteGrowth
  split
  · exact count_bumpBy_of_ne m (by simp) _
  · rfl

namespace Adapter

theorem attempts_dispatchOne (r : Request) (a : Adapter H) (s : Scene β H) :
    (dispatchOne link r a s).2.attempts side ok = s.attempts side ok := by
  have hsent : (a.outbox.sendRequest link r s).2.2.attempts side ok = s.attempts side ok :=
    Metrics.attempts_noteGrowth side ok _ _ s.metrics
  unfold dispatchOne
  dsimp only
  split
  · exact (Scene.attempts_count side ok _ (by simp)).trans hsent
  · exact (Scene.attempts_count side ok _ (by simp)).trans hsent

theorem attempts_dispatchAll (rs : List Request) (a : Adapter H) (s : Scene β H) :
    (dispatchAll link rs a s).2.attempts side ok = s.attempts side ok := by
  induction rs generalizing a s with
  | nil => rfl
  | cons r rs ih => exact (ih _ _).trans (attempts_dispatchOne side ok r a s)

theorem attempts_deliverInactive (i : Item) (a : Adapter H) (s : Scene β H) :
    (deliverInactive i a s).2.attempts side ok = s.attempts side ok := by
  unfold deliverInactive
  split
  · rfl
  · exact Scene.attempts_count side ok s (by simp)

theorem attempts_subscribe (name : String) (handle : H) (a : Adapter H) (s : Scene β H) :
    (subscribe name handle a s).2.2.attempts side ok = s.attempts side ok := by
  unfold subscribe
  split
  · rfl
  · dsimp only
    split
    · rfl
    · exact attempts_deliverInactive side ok _ _ _

end Adapter

end Counting

namespace Supervisor

/-- The supervisors are no newer than the newest generation, and none of them is dialing. -/
def Orderly (newest : Nat) (vs : List Supervisor) : Prop :=
  ∀ v ∈ vs, v.generation ≤ newest ∧ v.isDialing = false

variable {newest : Nat} {vs pre post : List Supervisor} {v v' : Supervisor}

theorem Orderly.newer (h : Orderly newest vs) (pause : Nat) :
    Orderly (newest + 1) (vs ++ [.create (newest + 1) pause]) := by
  intro u hu
  rcases List.mem_append.mp hu with hu | hu
  · exact ⟨Nat.le_succ_of_le (h u hu).1, (h u hu).2⟩
  · rw [List.mem_singleton.mp hu]
    exact ⟨Nat.le_refl _, rfl⟩

/-- A turn of one of the supervisors leaves them in order. -/
theorem Orderly.turn (h : Orderly newest (pre ++ v :: post)) (hg : v'.generation = v.generation)
    (hd : v'.isDialing = false) :
    Orderly newest (if v'.isFinished then pre ++ post else pre ++ v' :: post) := by
  have hothers : Orderly newest (pre ++ post) := by
    intro u hu
    refine h u ?_
    rcases List.mem_append.mp hu with hu | hu
    · exact List.mem_append_left _ hu
    · exact List.mem_append_right _ (List.mem_cons_of_mem _ hu)
  split
  · exact hothers
  · intro u hu
    rcases List.mem_append.mp hu with hu | hu
    · exact hothers u (List.mem_append_left _ hu)
    · rcases List.mem_cons.mp hu with rfl | hu
      · exact ⟨hg ▸ (h v (by simp)).1, hd⟩
      · exact hothers u (List.mem_append_right _ hu)

/-- The supervisors have been overtaken, and none of them is dialing. -/
def Retired (newest : Nat) (vs : List Supervisor) : Prop :=
  ∀ v ∈ vs, v.generation < newest ∧ v.isDialing = false

theorem Orderly.retired (h : Orderly newest vs) : Retired (newest + 1) vs :=
  fun v hv => ⟨Nat.lt_succ_of_le (h v hv).1, (h v hv).2⟩

section First

variable {σ : Type} {d : Dialer σ} {staff : List Supervisor → σ → σ} {now : Nat} {w r : σ}
  {done : List Supervisor} {P : σ → Prop}

/-- Where every attempt is over at once, the supervisors stay in order when one of them goes on. -/
theorem Orderly.turnFirst (h : Orderly newest (done ++ vs))
    (hprompt : ∀ w, (d.dial w).1.delay = none) (hstaffed : ∀ vs, P (staff vs w))
    (hkept : ∀ (v : Supervisor) w, P w → P (v.turn d now w).2)
    (hr : Supervisor.turnFirst d staff now w done vs = some r) :
    ∃ vs' w', Orderly newest vs' ∧ P w' ∧ r = staff vs' w' := by
  obtain ⟨pre, v, post, t, rfl, -, rfl, rfl⟩ := turnFirst_cases hr
  rw [← List.append_assoc] at h
  refine ⟨_, _, h.turn ?_ ?_, hkept v _ (hstaffed _), rfl⟩
  · exact generation_turn _ _ _ _
  · exact isDialing_turn _ _ hprompt (h v (by simp)).2

/-- A supervisor that was overtaken goes, and nothing else happens. -/
theorem Retired.turnFirst (h : Retired newest (done ++ vs))
    (hnewest : ∀ vs, d.newest (staff vs w) = newest)
    (hr : Supervisor.turnFirst d staff now w done vs = some r) :
    ∃ vs', Retired newest vs' ∧ r = staff vs' (staff vs' w) := by
  obtain ⟨pre, v, post, t, rfl, hdue, rfl, rfl⟩ := turnFirst_cases hr
  obtain ⟨hlt, hidle⟩ := h v (by simp)
  have hstale : d.newest (staff (done ++ pre ++ post) w) ≠ v.generation := by
    rw [hnewest]
    exact Nat.ne_of_gt hlt
  rw [turn_of_stale _ _ hidle hdue hstale]
  refine ⟨done ++ pre ++ post, fun u hu => h u ?_, rfl⟩
  rw [← List.append_assoc]
  rcases List.mem_append.mp hu with hu | hu
  · exact List.mem_append_left _ hu
  · exact List.mem_append_right _ (List.mem_cons_of_mem _ hu)

end First

end Supervisor

section Staff

variable {β κ H : Type} [DecidableEq κ] {k : κ} {l : Nat}

/-- The supervisors of an adapter that is held are in order. -/
structure Adapter.Staffed (a : Adapter H) : Prop where
  held : a.released = false
  orderly : Supervisor.Orderly a.newest a.supervisors

/-- The supervisors of a generator that is held are in order. -/
structure Generator.Staffed (g : Generator) : Prop where
  held : g.released = false
  orderly : Supervisor.Orderly g.newest g.supervisors

/-- A turn neither releases an adapter that is held nor makes a newer generation. -/
theorem Adapter.held_turn {link : Link β} {n : Nat} (now : Nat) (v : Supervisor)
    {w : Adapter H × Scene β H} (h : w.1.released = false ∧ w.1.newest = n) :
    (v.turn (dialer link) now w).2.1.released = false ∧
      (v.turn (dialer link) now w).2.1.newest = n :=
  Supervisor.turn_induction (dialer link)
    (P := fun w : Adapter H × Scene β H => w.1.released = false ∧ w.1.newest = n)
    (fun _ h => h) (fun _ h => h) (fun w h => by rwa [arrived_of_held h.1])
    (fun _ _ h => h) (fun _ h => h) now v h

/-- A turn neither releases a generator that is held nor makes a newer generation. -/
theorem Generator.held_turn {link : Link β} {n : Nat} (now : Nat) (v : Supervisor)
    {w : Generator × Scene β H} (h : w.1.released = false ∧ w.1.newest = n) :
    (v.turn (dialer link) now w).2.1.released = false ∧
      (v.turn (dialer link) now w).2.1.newest = n :=
  Supervisor.turn_induction (dialer link)
    (P := fun w : Generator × Scene β H => w.1.released = false ∧ w.1.newest = n)
    (fun _ h => h) (fun _ h => h) (fun w h => by rwa [arrived_of_held h.1])
    (fun _ _ h => h) (fun _ h => h) now v h

theorem Adapter.Staffed.supervise {a : Adapter H} (h : a.Staffed) {s : Scene (Broker κ) H}
    {r : Adapter H × Scene (Broker κ) H} {vs done : List Supervisor}
    (hvs : a.supervisors = done ++ vs)
    (hr : superviseFrom (Broker.link k l) a s done vs = some r) : r.1.Staffed := by
  have horder : Supervisor.Orderly a.newest (done ++ vs) := hvs ▸ h.orderly
  obtain ⟨vs', w, horder', ⟨hheld, hnewest⟩, rfl⟩ :=
    horder.turnFirst (P := fun w : Adapter H × _ => w.1.released = false ∧ w.1.newest = a.newest)
      (fun _ => rfl) (fun _ => ⟨h.held, rfl⟩) (fun v _ => held_turn s.now v) hr
  exact ⟨hheld, hnewest ▸ horder'⟩

theorem Generator.Staffed.supervise {g : Generator} (h : g.Staffed) {s : Scene (Broker κ) H}
    {r : Generator × Scene (Broker κ) H} {vs done : List Supervisor}
    (hvs : g.supervisors = done ++ vs)
    (hr : superviseFrom (Broker.link k l) g s done vs = some r) : r.1.Staffed := by
  have horder : Supervisor.Orderly g.newest (done ++ vs) := hvs ▸ h.orderly
  obtain ⟨vs', w, horder', ⟨hheld, hnewest⟩, rfl⟩ :=
    horder.turnFirst (P := fun w : Generator × _ => w.1.released = false ∧ w.1.newest = g.newest)
      (fun _ => rfl) (fun _ => ⟨h.held, rfl⟩) (fun v _ => held_turn s.now v) hr
  exact ⟨hheld, hnewest ▸ horder'⟩

theorem Adapter.Staffed.congr {a a' : Adapter H} (h : a.Staffed) (hr : a'.released = a.released)
    (hn : a'.newest = a.newest) (hs : a'.supervisors = a.supervisors) : a'.Staffed :=
  ⟨hr.trans h.held, by rw [hn, hs]; exact h.orderly⟩

theorem Generator.Staffed.congr {g g' : Generator} (h : g.Staffed) (hr : g'.released = g.released)
    (hn : g'.newest = g.newest) (hs : g'.supervisors = g.supervisors) : g'.Staffed :=
  ⟨hr.trans h.held, by rw [hn, hs]; exact h.orderly⟩

theorem Adapter.Staffed.startReconnect {a : Adapter H} (h : a.Staffed) :
    a.startReconnect.Staffed :=
  ⟨h.held, h.orderly.newer _⟩

theorem Generator.Staffed.startReconnect {g : Generator} (h : g.Staffed) :
    g.startReconnect.Staffed :=
  ⟨h.held, h.orderly.newer _⟩

theorem Adapter.Staffed.look {β : Type} {a : Adapter H} (h : a.Staffed) {s : Scene β H}
    {r : Adapter H × Scene β H} {ws done : List Watchdog} (hr : watchFrom a s done ws = some r) :
    r.1.Staffed := by
  rcases watchFrom_effect hr with ⟨ws, rfl⟩ | ⟨ws, rfl⟩
  · exact h.congr rfl rfl rfl
  · obtain ⟨subs, m, notes, -, hd⟩ := degrade_effect .producer a s
    rw [hd]
    exact h.congr rfl rfl rfl

theorem Adapter.Staffed.receive {β : Type} {a : Adapter H} (h : a.Staffed) (p : Payload)
    (s : Scene β H) : (receive p a s).1.Staffed := by
  generalize hr : Adapter.receive p a s = r
  cases hr ▸ receive_effect p a s <;> exact h.congr rfl rfl rfl

theorem Adapter.Staffed.transportError {β : Type} {a : Adapter H} (h : a.Staffed)
    (s : Scene β H) : (transportError a s).1.Staffed := by
  obtain ⟨subs, m, notes, -, hlost⟩ := transportError_effect a s
  rw [hlost]
  exact ⟨h.held, h.orderly.newer _⟩

theorem Adapter.Staffed.subscribe {β : Type} {a : Adapter H} (h : a.Staffed) (name : String)
    (handle : H) (s : Scene β H) : (subscribe name handle a s).2.1.Staffed := by
  generalize hr : (Adapter.subscribe name handle a s).2 = r
  cases hr ▸ subscribe_effect name handle a s <;> exact h.congr rfl rfl rfl

theorem Adapter.Staffed.unsubscribe {a : Adapter H} (h : a.Staffed) (name : String) :
    (unsubscribe name a).2.Staffed := by
  generalize hr : (Adapter.unsubscribe name a).2 = r
  cases hr ▸ unsubscribe_effect name a <;> exact h.congr rfl rfl rfl

theorem Generator.Staffed.hear {g : Generator} (h : g.Staffed) (e : MarketEvent)
    (s : Scene (Broker κ) H) : (hear (Broker.link k l) e g s).1.Staffed := by
  unfold Generator.hear
  split
  · obtain ⟨o, m, he⟩ := onEvent_effect (k := k) (l := l) e g s
    rw [he]
    exact h.congr rfl rfl rfl
  · exact h

theorem Generator.Staffed.receive {g : Generator} (h : g.Staffed) (p : Payload)
    (s : Scene (Broker κ) H) : (receive (Broker.link k l) p g s).1.Staffed := by
  unfold Generator.receive
  split
  · exact h
  · rename_i r _
    cases r with
    | reset => exact h.congr rfl rfl rfl
    | unsubscribe i n => exact h.congr rfl rfl rfl
    | subscribe i n =>
        have hasked : Generator.Staffed { g with gate := g.gate.apply (.subscribe i n) } :=
          h.congr rfl rfl rfl
        exact hasked.hear _ _

end Staff

namespace Duo

/-- A duo at its broker, both of whose parties have their supervisors in order. -/
structure Staffed (x : Duo) : Prop where
  joins : x.bus.Joins Feed.generatorName
  adapter : x.adapter.Staffed
  generator : x.generator.Staffed

variable {x y : Duo}

theorem Staffed.piece (h : x.Staffed) (hp : x.Piece Feed.generatorName y) : y.Staffed := by
  have hj : y.bus.Joins Feed.generatorName := h.joins.of_roster_eq hp.follows.1
  cases hp with
  | adapterDials place r hr =>
      exact ⟨hj, h.adapter.supervise (List.take_append_drop place _).symm hr, h.generator⟩
  | adapterLooks place r hr => exact ⟨hj, h.adapter.look hr, h.generator⟩
  | generatorDials place r hr =>
      exact ⟨hj, h.adapter, h.generator.supervise (List.take_append_drop place _).symm hr⟩
  | heartbeat hs hh =>
      refine ⟨hj, h.adapter, ?_⟩
      obtain ⟨o, m, hsent⟩ := Generator.publishHeartbeat_effect (k := .generator Feed.generatorName)
        (l := 0) { x.generator with heartbeats := hs } x.scene
      rw [emit, hsent]
      exact h.generator.congr rfl rfl rfl
  | trade ts ht =>
      have htraded : Generator.Staffed { x.generator with
          ticks := ts, market := (x.generator.market.tick x.scene.clock).2 } :=
        h.generator.congr rfl rfl rfl
      exact ⟨hj, h.adapter, htraded.hear _ _⟩
  | round hr =>
      refine ⟨hj, ?_, h.generator⟩
      obtain ⟨o, m, hsent⟩ := Adapter.dispatchRound_effect (k := Party.adapter) (l := 0)
        h.adapter.held x.scene
      rw [act, hsent]
      exact h.adapter.congr rfl rfl rfl
  | adapterHears p b hg => exact ⟨hj, h.adapter.receive p _, h.generator⟩
  | adapterLoses b hg => exact ⟨hj, h.adapter.transportError _, h.generator⟩
  | generatorHears p b hg => exact ⟨hj, h.adapter, h.generator.receive p _⟩
  | generatorLoses b hg =>
      have hcleared : Generator.Staffed { x.generator with gate := .empty } :=
        h.generator.congr rfl rfl rfl
      exact ⟨hj, h.adapter, hcleared.startReconnect⟩

theorem Staffed.subscribe (h : x.Staffed) (item handle : String) :
    Staffed (x.act (x.adapter.subscribe item handle x.scene).2) :=
  ⟨h.joins.of_roster_eq (@move_follows Feed.generatorName (.subscribe item handle) x).1,
    h.adapter.subscribe item handle x.scene, h.generator⟩

theorem Staffed.call (h : x.Staffed) (items : List String) (c : Feed.Call) :
    (x.call items c).Staffed := by
  have hj : (x.call items c).bus.Joins Feed.generatorName :=
    h.joins.of_roster_eq (Feed.roster_call items x c)
  cases c with
  | start =>
      refine subscribeAll_induction (fun item handle y hy => hy.subscribe item handle) items ?_
      refine ⟨?_, h.adapter.startReconnect, ?_⟩
      · exact h.joins.of_roster_eq ((startAdapter_follows _).1.trans (startGenerator_follows x).1)
      · exact h.generator.startReconnect.congr rfl rfl rfl
  | shutdown =>
      refine ⟨hj, ⟨h.adapter.held, fun v hv => ?_⟩, ⟨h.generator.held, fun v hv => ?_⟩⟩
      · exact ⟨Nat.le_succ_of_le (h.adapter.orderly v hv).1, (h.adapter.orderly v hv).2⟩
      · exact ⟨Nat.le_succ_of_le (h.generator.orderly v hv).1, (h.generator.orderly v hv).2⟩
  | subscribe item handle => exact h.subscribe item handle
  | unsubscribe item => exact ⟨hj, h.adapter.unsubscribe item, h.generator⟩
  | available value => exact ⟨hj, h.adapter, h.generator⟩
  | clock seconds => exact ⟨hj, h.adapter, h.generator⟩

end Duo

section Retirement

variable {β H : Type} {link : Link β}

/-- A supervisor of an adapter that was overtaken goes, and nothing else happens. -/
theorem Adapter.superviseFrom_of_retired {a : Adapter H} {s : Scene β H}
    {r : Adapter H × Scene β H} {vs done : List Supervisor}
    (h : Supervisor.Retired a.newest a.supervisors) (hvs : a.supervisors = done ++ vs)
    (hr : superviseFrom link a s done vs = some r) :
    ∃ vs, Supervisor.Retired a.newest vs ∧ r = ({ a with supervisors := vs }, s) :=
  (hvs ▸ h).turnFirst (fun _ => rfl) hr

/-- A supervisor of a generator that was overtaken goes, and nothing else happens. -/
theorem Generator.superviseFrom_of_retired {g : Generator} {s : Scene β H}
    {r : Generator × Scene β H} {vs done : List Supervisor}
    (h : Supervisor.Retired g.newest g.supervisors) (hvs : g.supervisors = done ++ vs)
    (hr : superviseFrom link g s done vs = some r) :
    ∃ vs, Supervisor.Retired g.newest vs ∧ r = ({ g with supervisors := vs }, s) :=
  (hvs ▸ h).turnFirst (fun _ => rfl) hr

/-- Without a known run a watchdog that looks goes, and nothing else happens. -/
theorem Adapter.watchFrom_of_unknown {a : Adapter H} {s : Scene β H} {r : Adapter H × Scene β H}
    {ws done : List Watchdog} (he : a.epoch? = none) (hr : watchFrom a s done ws = some r) :
    ∃ ws', r = ({ a with watchdogs := ws' }, s) := by
  obtain ⟨pre, w, post, -, -, rfl⟩ := watchFrom_cases hr
  generalize hl : Adapter.look w a s = l
  cases hl ▸ look_effect w a s with
  | silent hknown hbus hc => cases he.symm.trans hknown
  | moved hknown hbus hc => cases he.symm.trans hknown
  | retired h => exact ⟨_, rfl⟩

end Retirement

namespace Feed

/-- What the consumer is told by its calls, apart from their times and the numbers of the
subscriptions. -/
def told (ns : List (Note String)) : List (Item × String × DeliveryKind × Fields × Bool) :=
  (ns.filterMap Note.call?).map (fun c => (c.item, c.handle, c.kind, c.fields, c.isSnapshot))

/-- What a call is answered with while there is no producer: an accepted subscription is given a
full snapshot. -/
def Call.answer? : Call → Option (Item × String × DeliveryKind × Fields × Bool)
  | .subscribe name handle =>
      (Item.parse name).toOption.map (fun i => (i, handle, .inactive, inactiveSnapshot, true))
  | _ => none

/-- The answer to a subscription. -/
theorem told_answer (t : Nat) (i : Item) (n : SubscriptionId) (handle : String) :
    told [.subscribed i n, .called (Adapter.inactiveCall t i ⟨n, handle, false⟩)] =
      [(i, handle, .inactive, inactiveSnapshot, true)] := rfl

theorem told_append (ns ns' : List (Note String)) : told (ns ++ ns') = told ns ++ told ns' := by
  simp [told]

end Feed

namespace Duo

/-- A duo that was shut down, compared with one at the shutdown: both sides are without session,
task and current supervisor, and the journal has grown by the answers to some calls. -/
structure Stopped (x₀ : Duo) (cs : List Feed.Call) (x : Duo) : Prop where
  joins : x.bus.Joins Feed.generatorName
  adapterHeld : x.adapter.released = false
  generatorHeld : x.generator.released = false
  adapterRetired : Supervisor.Retired x.adapter.newest x.adapter.supervisors
  generatorRetired : Supervisor.Retired x.generator.newest x.generator.supervisors
  heartbeats : x.generator.heartbeats = []
  ticks : x.generator.ticks = []
  unknown : x.adapter.epoch? = none
  unlinked : x.adapter.book.liveness.busConnected = false
  closed : ∀ p, x.bus.session? p = none
  routed : x.bus.routed = x₀.bus.routed
  attempts : ∀ side ok, x.scene.attempts side ok = x₀.scene.attempts side ok
  pending : x.adapter.book.pending <:+ x₀.adapter.book.pending
  journal : ∃ ns, x.scene.journal.toList = x₀.scene.journal.toList ++ ns ∧
    Feed.told ns = cs.filterMap Feed.Call.answer?

variable {x₀ x y : Duo} {cs : List Feed.Call}

/-- A shutdown closes both sessions. -/
theorem session?_shutdown (hj : x.bus.Joins Feed.generatorName) (p : Party) :
    (x.shutdown Feed.generatorName).bus.session? p = none := by
  show ((x.bus.reset .adapter).reset (.generator Feed.generatorName)).session? p = none
  by_cases hg : p = .generator Feed.generatorName
  · rw [hg, Broker.session?_reset_self]
  · rw [Broker.session?_reset_of_ne hg]
    by_cases ha : p = .adapter
    · rw [ha, Broker.session?_reset_self]
    · rw [Broker.session?_reset_of_ne ha]
      cases hs : x.bus.session? p with
      | none => rfl
      | some s => exact absurd (hj.isOn_of_session? hs) (by simp [Broker.IsOn, ha, hg])

/-- What a shutdown leaves behind, whatever state it meets. -/
theorem Staffed.shutdown (h : x.Staffed) :
    Stopped x [] (x.shutdown Feed.generatorName) where
  joins := (h.call [] .shutdown).joins
  adapterHeld := h.adapter.held
  generatorHeld := h.generator.held
  adapterRetired := h.adapter.orderly.retired
  generatorRetired := h.generator.orderly.retired
  heartbeats := rfl
  ticks := rfl
  unknown := rfl
  unlinked := rfl
  closed := session?_shutdown h.joins
  routed := rfl
  attempts _ _ := rfl
  pending := List.suffix_refl _
  journal := ⟨[], (List.append_nil _).symm, rfl⟩

namespace Stopped

theorem gives_nothing (h : Stopped x₀ cs x) {p : Party} {i : Inbound} {b : Broker Party} :
    ¬ x.bus.Gives p i b := by
  rintro ⟨s, source, s', hs, -, -⟩
  cases (h.closed p).symm.trans hs

/-- A dispatch round is refused by the bus. -/
theorem round (h : Stopped x₀ cs x) :
    Stopped x₀ cs (x.act (Adapter.dispatchRound (Broker.link .adapter 0) x.adapter x.scene)) := by
  have hattempts : ∀ side ok,
      (Adapter.dispatchRound (Broker.link .adapter 0) x.adapter x.scene).2.attempts side ok =
        x₀.scene.attempts side ok :=
    fun side ok => (Adapter.attempts_dispatchAll side ok _ _ _).trans (h.attempts side ok)
  obtain ⟨o, m, hsent⟩ := Adapter.dispatchRound_effect (k := Party.adapter) (l := 0)
    h.adapterHeld x.scene
  rw [Broker.sendAll_of_closed (h.closed .adapter)] at hsent
  generalize hr : Adapter.dispatchRound (Broker.link .adapter 0) x.adapter x.scene = r
    at hattempts hsent ⊢
  subst hsent
  exact { h with attempts := hattempts, pending := List.nil_suffix }

/-- No piece of work is left that does anything. -/
theorem piece (h : Stopped x₀ cs x) (hp : x.Piece Feed.generatorName y) : Stopped x₀ cs y := by
  cases hp with
  | adapterDials place r hr =>
      obtain ⟨vs, hvs, rfl⟩ := Adapter.superviseFrom_of_retired h.adapterRetired
        (List.take_append_drop place _).symm hr
      exact { h with adapterRetired := hvs }
  | adapterLooks place r hr =>
      obtain ⟨ws, rfl⟩ := Adapter.watchFrom_of_unknown h.unknown hr
      exact { h with }
  | generatorDials place r hr =>
      obtain ⟨vs, hvs, rfl⟩ := Generator.superviseFrom_of_retired h.generatorRetired
        (List.take_append_drop place _).symm hr
      exact { h with generatorRetired := hvs }
  | heartbeat hs hh =>
      rw [h.heartbeats] at hh
      cases hh
  | trade ts ht =>
      rw [h.ticks] at ht
      cases ht
  | round hr => exact h.round
  | adapterHears p b hg => exact absurd hg h.gives_nothing
  | adapterLoses b hg => exact absurd hg h.gives_nothing
  | generatorHears p b hg => exact absurd hg h.gives_nothing
  | generatorLoses b hg => exact absurd hg h.gives_nothing

/-- A later subscription is answered on the spot, and no request is queued. -/
theorem subscribe (h : Stopped x₀ cs x) (item handle : String) :
    Stopped x₀ (cs ++ [.subscribe item handle])
      (x.act (x.adapter.subscribe item handle x.scene).2) := by
  have hattempts : ∀ side ok,
      (x.adapter.subscribe item handle x.scene).2.2.attempts side ok =
        x₀.scene.attempts side ok :=
    fun side ok => (Adapter.attempts_subscribe side ok item handle _ _).trans (h.attempts side ok)
  obtain ⟨ns, hj, htold⟩ := h.journal
  cases hi : Item.parse item with
  | error e =>
      rw [Adapter.subscribe_of_refused hi]
      exact { h with journal := ⟨ns, hj, by
        simp [List.filterMap_append, htold, Feed.Call.answer?, hi, Except.toOption]⟩ }
  | ok i =>
      obtain ⟨m, hsub⟩ := Adapter.subscribe_of_unknown hi h.unknown handle x.scene
      rw [hsub] at hattempts ⊢
      refine { h with attempts := hattempts, journal := ⟨ns ++ [.subscribed i x.adapter.book.nextId,
        .called (Adapter.inactiveCall x.scene.now i ⟨x.adapter.book.nextId, handle, false⟩)],
        ?_, ?_⟩ }
      · simp [act, hj]
      · rw [Feed.told_append, htold, Feed.told_answer, List.filterMap_append]
        simp [Feed.Call.answer?, hi, Except.toOption]

theorem unsubscribe (h : Stopped x₀ cs x) (item : String) :
    Stopped x₀ cs { x with adapter := (x.adapter.unsubscribe item).2 } := by
  generalize hr : (x.adapter.unsubscribe item).2 = a
  cases hr ▸ Adapter.unsubscribe_effect item x.adapter with
  | refused => exact h
  | requested i sub he hs =>
      rw [h.unknown] at he
      cases he
  | idle i he => exact { h with }

/-- A later call changes no more than the subscriptions and whether the broker is up. -/
theorem call (h : Stopped x₀ cs x) (items : List String) {c : Feed.Call} (hc : c ≠ .start) :
    Stopped x₀ (cs ++ [c]) (x.call items c) := by
  have hquiet : ∀ {y : Duo}, Stopped x₀ cs y → c.answer? = none → Stopped x₀ (cs ++ [c]) y := by
    intro y hy hnone
    obtain ⟨ns, hj, htold⟩ := hy.journal
    exact { hy with journal := ⟨ns, hj, by simp [htold, hnone]⟩ }
  cases c with
  | start => exact absurd rfl hc
  | shutdown =>
      refine hquiet ?_ rfl
      exact { h with
        joins := h.joins.of_roster_eq (Feed.roster_call items x .shutdown)
        adapterRetired := fun v hv => (h.adapterRetired v hv).imp_left Nat.lt_succ_of_lt
        generatorRetired := fun v hv => (h.generatorRetired v hv).imp_left Nat.lt_succ_of_lt
        heartbeats := rfl
        ticks := rfl
        unknown := rfl
        unlinked := rfl
        closed := session?_shutdown h.joins }
  | subscribe item handle => exact h.subscribe item handle
  | unsubscribe item => exact hquiet (h.unsubscribe item) rfl
  | available value => exact hquiet { h with } rfl
  | clock seconds => exact hquiet { h with } rfl

end Stopped

end Duo

namespace Feed

/-- The requests that the adapter has yet to send. -/
def pending (f : Feed) : List Request := (f.deployment.adapter.map (·.book.pending)).getD []

variable {clock : Nat} {c : Config} {f₀ f g : Feed} {cs cs' : List Call}

/-- Whatever a feed went through, its supervisors are in order. -/
theorem Run.staffed (hb : build clock c = .ok f₀) (hr : Run cs f₀ f) :
    ∃ x : Duo, f = ⟨c, x.deploy generatorName⟩ ∧ x.Staffed := by
  obtain ⟨x₀, rfl, -, ha, hg, m, hs⟩ := exists_of_build hb
  refine hr.induction (P := fun _ x => x.Staffed) rfl ?_ (fun c h => h.call _ c)
    (fun h hp => h.piece hp) (fun t h _ _ _ => ⟨h.joins, h.adapter, h.generator⟩)
  obtain ⟨har, -, hav, -⟩ := Duo.adapter_of_create ha
  obtain ⟨hgr, hgv, -⟩ := Duo.generator_of_create hg
  refine ⟨?_, ⟨har, fun v hv => ?_⟩, ⟨hgr, fun v hv => ?_⟩⟩
  · rw [Duo.bus, hs]
    exact joins_builtBus c
  · rw [hav] at hv
    cases hv
  · rw [hgv] at hv
    cases hv

/-- A feed that was shut down stays down, whatever it was doing then and whatever comes later but a
start: it knows no producer run, no session is opened, nothing is routed, queued or attempted, and
the consumer is called for nothing but the answers to later subscriptions. -/
theorem shutdown_is_final (hb : build clock c = .ok f₀) (hr : Run cs f₀ f)
    (hr' : Run cs' f.shutdown g) (hc : .start ∉ cs') :
    g.status = .down ∧ g.epoch? = none ∧
      (∀ p, g.deployment.scene.bus.session? p = none) ∧
      g.deployment.scene.bus.routed = f.deployment.scene.bus.routed ∧
      g.pending <:+ f.pending ∧
      (∀ side ok, g.deployment.scene.attempts side ok = f.deployment.scene.attempts side ok) ∧
      ∃ ns, g.deployment.scene.journal.toList = f.deployment.scene.journal.toList ++ ns ∧
        told ns = cs'.filterMap Call.answer? := by
  obtain ⟨x, rfl, hx⟩ := hr.staffed hb
  have hshut := Duo.call_deploy c x .shutdown
  obtain ⟨y, rfl, hy⟩ := hr'.induction
    (P := fun cs y => .start ∉ cs → Duo.Stopped x cs y)
    (congrArg Feed.deployment hshut) (fun _ => hx.shutdown)
    (fun k h hk => (h (fun hm => hk (List.mem_append_left _ hm))).call _
      (fun hk' => hk (List.mem_append_right _ (by rw [hk']; exact List.mem_singleton_self _))))
    (fun h hp hk => (h hk).piece hp)
    (fun t h _ _ _ hk => { h hk with })
  have hstopped := hy hc
  refine ⟨?_, hstopped.unknown, hstopped.closed, hstopped.routed, hstopped.pending,
    hstopped.attempts, hstopped.journal⟩
  show y.adapter.book.liveness.status = .down
  rw [Liveness.status, hstopped.unlinked]

section Demonstration

/-- The small feed, shut down while it was up; then another item is subscribed to, and the broker
goes down and comes up again. -/
def demoFinal : Feed :=
  (((demoFed.shutdown.call (.subscribe "item7" "late")).call (.available false)).call
    (.available true)).settle

theorem demoFinal_run :
    Run [.subscribe "item7" "late", .available false, .available true] demoFed.shutdown
      demoFinal :=
  .settle build_demo (.called .shutdown demoFed_run)
    (.called (.available true) (.called (.available false)
      (.called (.subscribe "item7" "late") (.refl demoFed.shutdown))))

/-- The small feed was up and stays down, and its consumer is told of one more subscription. -/
theorem shutdown_is_final_demo :
    demoFed.status = .up ∧ demoFinal.status = .down ∧ ∃ ns,
      demoFinal.deployment.scene.journal.toList = demoFed.deployment.scene.journal.toList ++ ns ∧
        told ns = [(Adapter.demoItem, "late", .inactive, inactiveSnapshot, true)] := by
  obtain ⟨hdown, -, -, -, -, -, hjournal⟩ :=
    shutdown_is_final build_demo demoFed_run demoFinal_run (by decide)
  exact ⟨by decide +kernel, hdown, hjournal⟩

end Demonstration

end Feed

end QuoteBridge
