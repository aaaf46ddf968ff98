import Mathlib.Data.Fintype.Card
import QuoteBridge.Proofs.Adapter.Watch
import QuoteBridge.Proofs.Deployment.Open
import QuoteBridge.Proofs.Feed.Run
import QuoteBridge.Proofs.Message.RoundTrip
import QuoteBridge.Proofs.SortedMap.Entries

/-!
# A feed at work

What a feed on an open line does once it is up.

**Budget.**  Between two looks of a watchdog the messages heard, the payloads and requests that
wait, and the instants of the next heartbeat and the next tick grow together, so that the number of
messages stays far below the size of the stall counter.

**Results.**
* `Duo.Serves.emit`, `Duo.Serves.act`: sending leaves a feed at work.
* `Duo.Attends.piece`: a watchdog always finds that its counter has moved.
* `Duo.IsUp.call`: and calls of the consumer change nothing about that.
-/

namespace QuoteBridge

section Counting

theorem length_entries_le {α : Type} (m : SortedMap Item α) : m.entries.length ≤ 30 := by
  have hnodup : (m.keys.map Item.index).Nodup :=
    m.nodup_keys.map (fun _ _ h => congrArg Item.mk h)
  have hle := hnodup.length_le_card
  simpa [SortedMap.keys] using hle

theorem length_replay_le {H : Type} (b : Book H) : b.replay.length ≤ 31 := by
  have hle := length_entries_le b.subscriptions
  simp only [Book.replay, List.length_cons, List.length_map]
  omega

end Counting

namespace Timer

theorem lt_due (now : Nat) {span : Nat} (h : 0 < span) : now < due now span := by
  have hpos : 0 < min span longest := Nat.lt_min.mpr ⟨h, by decide⟩
  simp only [due]
  omega

theorem due_le (now span : Nat) : due now span ≤ now + span :=
  Nat.add_le_add_left (Nat.min_le_left _ _) _

end Timer

/-- The octets are a message of a producer run. -/
def Announces (e : Epoch) (p : Payload) : Prop := ∃ m, Message.decode p = some m ∧ m.epoch = e

theorem announces_encode (m : Message) : Announces m.epoch m.encode :=
  ⟨m, Message.decode_encode m, rfl⟩

namespace Generator

/-- An event is published as one message of the generator's run at most. -/
theorem emits_le_one (v : MarketEvent) (g : Generator) :
    (g.emits v).length ≤ 1 ∧ ∀ m ∈ g.emits v, m.epoch = g.epoch := by
  unfold emits
  split
  · exact ⟨Nat.zero_le _, by simp⟩
  · refine ⟨Nat.le_refl _, fun m hm => ?_⟩
    rw [List.mem_singleton.mp hm]
    rfl

/-- A request is answered with one message at most, and changes nothing but the gate. -/
theorem answers_le_one (r : Request) (g : Generator) :
    (∃ gate, (g.answers r).1 = { g with gate := gate }) ∧
      (g.answers r).2.length ≤ 1 ∧ ∀ m ∈ (g.answers r).2, m.epoch = g.epoch := by
  cases r with
  | reset => exact ⟨⟨_, rfl⟩, Nat.zero_le _, by simp [answers]⟩
  | unsubscribe i n => exact ⟨⟨_, rfl⟩, Nat.zero_le _, by simp [answers]⟩
  | subscribe i n => exact ⟨⟨_, rfl⟩, emits_le_one _ _⟩

/-- Without subscriptions nothing gets through the gate. -/
theorem emits_of_empty {g : Generator} (h : ∀ i, g.gate.tenure? i = none) (v : MarketEvent) :
    g.emits v = [] ∧ g.passed v = g := by
  have hpass : g.gate.pass v.item v.isSnapshot = (.drop, g.gate) := by
    simp [Gate.pass, h]
  simp [emits, passed, hpass]

/-- A task whose instant has come is put off by an interval. -/
theorem postpone?_single {now interval t : Nat} {ts : List Nat}
    (h : postpone? now interval [t] = some ts) : t ≤ now ∧ ts = [Timer.due now interval] := by
  by_cases ht : t ≤ now
  · simp only [postpone?, ht, if_true, Option.some.injEq] at h
    exact ⟨ht, h.symm⟩
  · simp [postpone?, ht] at h

theorem lt_of_postpone?_single {now interval t : Nat} (h : postpone? now interval [t] = none) :
    now < t := by
  by_cases ht : t ≤ now
  · simp [postpone?, ht] at h
  · omega

end Generator

namespace Note

variable {H : Type}

/-- The note is neither of a new producer run nor of a missing producer. -/
def Plain (n : Note H) : Prop :=
  (∀ t e, n ≠ .heard t e true) ∧ ∀ d, n = .called d → d.kind ≠ .inactive

/-- The first message is heard at some time and brings a run; from then on all notes are plain. -/
def Told (t : Nat) (e : Epoch) (ns : List (Note H)) : Prop :=
  ∃ pre post, ns = pre ++ .heard t e true :: post ∧ (∀ t e b, .heard t e b ∉ pre) ∧
    ∀ n ∈ post, n.Plain

theorem plain_subscribed (i : Item) (id : SubscriptionId) : (subscribed i id : Note H).Plain :=
  ⟨fun _ _ => nofun, fun _ => nofun⟩

theorem plain_heard (t : Nat) (e : Epoch) : (heard t e false : Note H).Plain :=
  ⟨fun _ _ => nofun, fun _ => nofun⟩

theorem plain_called {d : Delivery H} (h : d.kind ≠ .inactive) : (called d : Note H).Plain :=
  ⟨fun _ _ => nofun, fun d' hd => by cases hd; exact h⟩

theorem Told.push {t : Nat} {e : Epoch} {ns : List (Note H)} (h : Told t e ns) {n : Note H}
    (hn : n.Plain) : Told t e (ns ++ [n]) := by
  obtain ⟨pre, post, rfl, hpre, hpost⟩ := h
  refine ⟨pre, post ++ [n], by simp, hpre, fun m hm => ?_⟩
  rcases List.mem_append.mp hm with hm | hm
  · exact hpost m hm
  · rw [List.mem_singleton.mp hm]
    exact hn

end Note

/-- The call neither starts nor stops anything. -/
def Feed.Call.isCalm : Feed.Call → Bool
  | .start => false
  | .shutdown => false
  | .subscribe _ _ => true
  | .unsubscribe _ => true
  | .available value => value
  | .clock _ => true

namespace Duo

variable {c : Config} {e : Epoch} {x y : Duo} {next tick : Nat}

section Serving

/-- Both parties are held, the tasks of the generator go on, and whatever waits for the adapter is
of the generator's run.  The next heartbeat and the next tick are given. -/
structure Serves (c : Config) (e : Epoch) (next tick : Nat) (x : Duo) : Prop where
  line : x.bus.Open Feed.generatorName
  capacity : x.bus.capacity ≤ 1024
  adapterHeld : x.adapter.released = false
  interval : x.adapter.config.watchdogInterval = c.adapter.watchdogInterval
  generatorHeld : x.generator.released = false
  wired : x.generator.wired = true
  epoch : x.generator.epoch = e
  config : x.generator.config = c.generatorConfig
  heartbeats : x.generator.heartbeats = [next]
  ticks : x.generator.ticks = [tick]
  ahead : x.scene.now ≤ next ∧ x.scene.now ≤ tick
  soon : next ≤ x.scene.now + c.generator.heartbeatInterval ∧ tick ≤ x.scene.now + Timer.longest
  announces : ∀ p ∈ x.bus.backlog .adapter, Announces e p

/-- The intervals of a configuration that is accepted. -/
structure Steady (c : Config) : Prop where
  positive : 0 < c.generator.heartbeatInterval
  below : c.generator.heartbeatInterval < c.adapter.watchdogInterval
  ticking : 0 < c.generator.tickInterval

/-- Heartbeats come before timers end by themselves. -/
structure Brisk (c : Config) : Prop extends Steady c where
  within : c.generator.heartbeatInterval < Timer.longest

theorem onAdapter : Broker.IsOn Feed.generatorName .adapter := Broker.IsOn.adapter

theorem onGenerator : Broker.IsOn Feed.generatorName (.generator Feed.generatorName) :=
  Broker.IsOn.generator

/-- What the generator publishes leaves the feed at work. -/
theorem Serves.emit (h : x.Serves c e next tick) {g : Generator} {next' tick' : Nat}
    (ms : List Message) {s : Scene (Broker Party) String} (hr : g.released = false)
    (hw : g.wired = true) (he : g.epoch = e) (hc : g.config = c.generatorConfig)
    (hh : g.heartbeats = [next']) (ht : g.ticks = [tick']) (hn : s.now = x.scene.now)
    (hb : s.bus = x.bus.sendAll (.generator Feed.generatorName) .updates (ms.map Message.encode))
    (hahead : x.scene.now ≤ next' ∧ x.scene.now ≤ tick')
    (hsoon : next' ≤ x.scene.now + c.generator.heartbeatInterval ∧
      tick' ≤ x.scene.now + Timer.longest) (hms : ∀ m ∈ ms, m.epoch = e) :
    (x.emit (g, s)).Serves c e next' tick' where
  line := by
    show s.bus.Open _
    rw [hb]
    exact h.line.sendAll onGenerator _
  capacity := by
    show s.bus.capacity ≤ _
    rw [hb, Broker.capacity_sendAll]
    exact h.capacity
  adapterHeld := h.adapterHeld
  interval := h.interval
  generatorHeld := hr
  wired := hw
  epoch := he
  config := hc
  heartbeats := hh
  ticks := ht
  ahead := by
    show s.now ≤ next' ∧ s.now ≤ tick'
    rw [hn]
    exact hahead
  soon := by
    show next' ≤ s.now + _ ∧ tick' ≤ s.now + _
    rw [hn]
    exact hsoon
  announces p hp := by
    have hp' : p ∈ (x.bus.sendAll (.generator Feed.generatorName) .updates
        (ms.map Message.encode)).backlog .adapter := hb ▸ hp
    rcases h.line.mem_backlog_sendAll onGenerator hp' with hp | hp
    · exact h.announces p hp
    · obtain ⟨msg, hmsg, rfl⟩ := List.mem_map.mp hp
      exact hms msg hmsg ▸ announces_encode msg

/-- What the adapter sends leaves the feed at work. -/
theorem Serves.act (h : x.Serves c e next tick) {a : Adapter String} (ps : List Payload)
    {s : Scene (Broker Party) String} (hr : a.released = false)
    (hi : a.config = x.adapter.config) (hn : s.now = x.scene.now)
    (hb : s.bus = x.bus.sendAll .adapter .requests ps) : (x.act (a, s)).Serves c e next tick where
  line := by
    show s.bus.Open _
    rw [hb]
    exact h.line.sendAll onAdapter ps
  capacity := by
    show s.bus.capacity ≤ _
    rw [hb, Broker.capacity_sendAll]
    exact h.capacity
  adapterHeld := hr
  interval := (congrArg AdapterConfig.watchdogInterval hi).trans h.interval
  generatorHeld := h.generatorHeld
  wired := h.wired
  epoch := h.epoch
  config := h.config
  heartbeats := h.heartbeats
  ticks := h.ticks
  ahead := by
    show s.now ≤ next ∧ s.now ≤ tick
    rw [hn]
    exact h.ahead
  soon := by
    show next ≤ s.now + _ ∧ tick ≤ s.now + _
    rw [hn]
    exact h.soon
  announces p hp := by
    have hself : s.bus.backlog .adapter = x.bus.backlog .adapter := by
      rw [hb]
      exact h.line.backlog_sendAll_self onAdapter ps
    exact h.announces p (hself ▸ hp)

/-- A session that gives its oldest payload leaves the feed at work. -/
theorem Serves.taken (h : x.Serves c e next tick) {q : Party} {p : Payload} {b : Broker Party}
    (hg : x.bus.Gives q (.payload p) b) : Serves c e next tick { x with scene := x.taken b } := by
  obtain ⟨hopen, ⟨rest, hold, hnew⟩, hother, -⟩ := h.line.pop hg
  have hcap : b.capacity = x.bus.capacity := by
    obtain ⟨s, source, s', -, -, rfl⟩ := hg
    rfl
  exact
    { h with
      line := hopen
      capacity := Nat.le_trans (Nat.le_of_eq hcap) h.capacity
      announces := fun p' hp' => by
        by_cases hq : Party.adapter = q
        · have hmem : p' ∈ rest := by
            rw [← hnew, ← hq]
            exact hp'
          refine h.announces p' ?_
          rw [hq, hold]
          exact List.mem_cons_of_mem _ hmem
        · exact h.announces p' (hother _ hq ▸ hp') }

/-- Nothing waits when all work is done. -/
theorem backlog_of_idle (hi : x.Idle Feed.generatorName) (q : Party) : x.bus.backlog q = [] := by
  cases hs : x.bus.session? q with
  | none => simp [Broker.backlog, hs]
  | some s =>
      rw [Broker.backlog_of_session? hs]
      exact (Broker.next?_eq_none (Option.map_eq_none_iff.mp hi.bus) hs).1

/-- Time passes up to the next timer. -/
theorem Serves.atTime (h : x.Serves c e next tick) {t : Nat} (ht : x.scene.now ≤ t)
    (hw : ∀ wake ∈ x.adapter.wakes ++ x.generator.wakes, t ≤ wake) :
    (x.atTime t).Serves c e next tick := by
  have hnext : t ≤ next := hw next (by simp [Generator.wakes, h.heartbeats])
  have htick : t ≤ tick := hw tick (by simp [Generator.wakes, h.ticks])
  have hsoon := h.soon
  exact { h with ahead := ⟨hnext, htick⟩, soon := by simp only [Duo.atTime]; omega }

end Serving

section Attending

variable {u calls t₀ n : Nat} {w : Watchdog}

/-- The feed is up since the instant `u`.  The only watchdog last looked at `t₀`, and `n` messages
were heard since. -/
structure Attends (c : Config) (e : Epoch) (u calls next tick : Nat) (w : Watchdog) (t₀ n : Nat)
    (x : Duo) : Prop where
  serves : x.Serves c e next tick
  alone : x.adapter.supervisors = [] ∧ x.generator.supervisors = []
  sessions : (x.bus.session? .adapter).isSome = true ∧
    (x.bus.session? (.generator Feed.generatorName)).isSome = true
  known : x.adapter.epoch? = some e
  connected : x.adapter.book.liveness.busConnected = true
  watchdogs : x.adapter.watchdogs = [w]
  run : w.epoch = e
  wake : w.wake = Timer.due t₀ c.adapter.watchdogInterval
  between : t₀ ≤ x.scene.now ∧ x.scene.now ≤ w.wake
  begun : u ≤ x.scene.now
  counter : x.adapter.book.liveness.stallCounter = w.lastSeen + UInt64.ofNat n
  /-- A message was heard since the last look, or one will be in time. -/
  fresh : n ≠ 0 ∨ next ≤ t₀ + c.generator.heartbeatInterval ∨
    (x.bus.backlog .adapter ≠ [] ∧ x.scene.now ≤ t₀ + c.generator.heartbeatInterval)
  asked : x.adapter.book.pending.length ≤ 31 + calls
  budget : n + (x.bus.backlog .adapter).length +
      (x.bus.backlog (.generator Feed.generatorName)).length +
      x.adapter.book.pending.length + 2 * t₀ ≤ 2079 + calls + next + tick
  told : Note.Told u e x.scene.journal.toList

/-- Messages that the generator publishes, within the budget. -/
theorem Attends.emit (h : x.Attends c e u calls next tick w t₀ n) {g : Generator}
    {s : Scene (Broker Party) String} (ms : List Message) {next' tick' : Nat}
    (hs : (x.emit (g, s)).Serves c e next' tick') (hn : s.now = x.scene.now)
    (hj : s.journal = x.scene.journal)
    (hb : s.bus = x.bus.sendAll (.generator Feed.generatorName) .updates (ms.map Message.encode))
    (hg : g.supervisors = []) (hnext : next' = next ∨ x.scene.now = next ∧ ms ≠ [])
    (hbudget : n + (x.bus.backlog .adapter).length + ms.length +
      (x.bus.backlog (.generator Feed.generatorName)).length +
      x.adapter.book.pending.length + 2 * t₀ ≤ 2079 + calls + next' + tick') :
    (x.emit (g, s)).Attends c e u calls next' tick' w t₀ n := by
  have hopen : ∀ q, (s.bus.session? q).isSome = (x.bus.session? q).isSome := by
    rw [hb]
    exact h.serves.line.isSome_session?_sendAll onGenerator _
  have hself : s.bus.backlog (.generator Feed.generatorName) =
      x.bus.backlog (.generator Feed.generatorName) := by
    rw [hb]
    exact h.serves.line.backlog_sendAll_self onGenerator _
  have hlen : (s.bus.backlog .adapter).length ≤ (x.bus.backlog .adapter).length + ms.length := by
    rw [hb, ← List.length_map Message.encode]
    exact h.serves.line.length_backlog_sendAll_le onGenerator
  have hwaits : x.bus.backlog .adapter ≠ [] ∨ ms ≠ [] → s.bus.backlog .adapter ≠ [] := by
    intro hne
    rw [hb]
    exact h.serves.line.backlog_sendAll_ne_nil onGenerator h.sessions.2 h.sessions.1
      (hne.imp_right (fun hms => by simpa using hms))
  exact
    { serves := hs
      alone := ⟨h.alone.1, hg⟩
      sessions := ⟨(hopen _).trans h.sessions.1, (hopen _).trans h.sessions.2⟩
      known := h.known
      connected := h.connected
      watchdogs := h.watchdogs
      run := h.run
      wake := h.wake
      between := by
        show t₀ ≤ s.now ∧ s.now ≤ w.wake
        rw [hn]
        exact h.between
      begun := by
        show _ ≤ s.now
        rw [hn]
        exact h.begun
      counter := h.counter
      fresh := by
        show _ ∨ _ ∨ s.bus.backlog .adapter ≠ [] ∧ s.now ≤ _
        rw [hn]
        rcases h.fresh with hnz | hle | ⟨hne, hle⟩
        · exact .inl hnz
        · rcases hnext with rfl | ⟨hnow, hms⟩
          · exact .inr (.inl hle)
          · exact .inr (.inr ⟨hwaits (.inr hms), hnow ▸ hle⟩)
        · exact .inr (.inr ⟨hwaits (.inl hne), hle⟩)
      asked := h.asked
      budget := by
        show n + (s.bus.backlog .adapter).length + (s.bus.backlog _).length + _ + _ ≤ _
        rw [hself]
        simp only [Duo.emit]
        omega
      told := by
        show Note.Told _ _ s.journal.toList
        rw [hj]
        exact h.told }

/-- What the adapter does, within the budget. -/
theorem Attends.act (h : x.Attends c e u calls next tick w t₀ n) {a : Adapter String}
    {s : Scene (Broker Party) String} {calls' n' : Nat}
    (hs : (x.act (a, s)).Serves c e next tick) (hn : s.now = x.scene.now)
    (hopen : ∀ q, (s.bus.session? q).isSome = (x.bus.session? q).isSome)
    (hv : a.supervisors = []) (hw : a.watchdogs = [w]) (he : a.epoch? = some e)
    (hl : a.book.liveness.busConnected = true)
    (hcount : a.book.liveness.stallCounter = w.lastSeen + UInt64.ofNat n')
    (hfresh : n' ≠ 0 ∨ n' = n ∧ s.bus.backlog .adapter = x.bus.backlog .adapter)
    (hp : a.book.pending.length ≤ 31 + calls')
    (hbudget : n' + (s.bus.backlog .adapter).length +
      (s.bus.backlog (.generator Feed.generatorName)).length +
      a.book.pending.length + 2 * t₀ ≤ 2079 + calls' + next + tick)
    (ht : Note.Told u e s.journal.toList) :
    (x.act (a, s)).Attends c e u calls' next tick w t₀ n' where
  serves := hs
  alone := ⟨hv, h.alone.2⟩
  sessions := ⟨(hopen _).trans h.sessions.1, (hopen _).trans h.sessions.2⟩
  known := he
  connected := hl
  watchdogs := hw
  run := h.run
  wake := h.wake
  between := by
    show t₀ ≤ s.now ∧ s.now ≤ w.wake
    rw [hn]
    exact h.between
  begun := by
    show _ ≤ s.now
    rw [hn]
    exact h.begun
  counter := hcount
  fresh := by
    show _ ∨ _ ∨ s.bus.backlog .adapter ≠ [] ∧ s.now ≤ _
    rcases hfresh with hnz | ⟨rfl, hsame⟩
    · exact .inl hnz
    · rw [hsame, hn]
      exact h.fresh
  asked := hp
  budget := hbudget
  told := ht

/-- The feed is up since the instant `u`, after some number of calls. -/
def IsUp (c : Config) (e : Epoch) (u calls : Nat) (x : Duo) : Prop :=
  ∃ next tick w t₀ n, x.Attends c e u calls next tick w t₀ n

theorem Brisk.due_heartbeat (hc : Brisk c) (now : Nat) :
    Timer.due now c.generator.heartbeatInterval = now + c.generator.heartbeatInterval :=
  Timer.due_of_le now (Nat.le_of_lt hc.within)

/-- The generator's task of publishing heartbeats puts off the next one by an interval. -/
theorem Serves.postponed_heartbeat (h : x.Serves c e next tick) {hs : List Nat}
    (hp : Generator.postpone? x.scene.now x.generator.config.heartbeatInterval
      x.generator.heartbeats = some hs) :
    x.scene.now = next ∧ hs = [Timer.due next c.generator.heartbeatInterval] := by
  have hconfig : x.generator.config.heartbeatInterval = c.generator.heartbeatInterval :=
    congrArg GeneratorConfig.heartbeatInterval h.config
  rw [h.heartbeats, hconfig] at hp
  obtain ⟨hle, rfl⟩ := Generator.postpone?_single hp
  have hnow : x.scene.now = next := Nat.le_antisymm h.ahead.1 hle
  exact ⟨hnow, by rw [hnow]⟩

/-- The market's task puts off the next tick, by a millisecond at least. -/
theorem Serves.postponed_tick (h : x.Serves c e next tick) (hc : Steady c) {ts : List Nat}
    (hp : Generator.postpone? x.scene.now x.generator.config.tickInterval
      x.generator.ticks = some ts) :
    x.scene.now = tick ∧
      ∃ tick', ts = [tick'] ∧ tick < tick' ∧ tick' ≤ x.scene.now + Timer.longest := by
  have hconfig : x.generator.config.tickInterval = c.generator.tickInterval :=
    congrArg GeneratorConfig.tickInterval h.config
  rw [h.ticks, hconfig] at hp
  obtain ⟨hle, rfl⟩ := Generator.postpone?_single hp
  have hnow : x.scene.now = tick := Nat.le_antisymm h.ahead.2 hle
  exact ⟨hnow, _, rfl, hnow ▸ Timer.lt_due _ hc.ticking,
    Nat.add_le_add_left (Nat.min_le_right _ _) _⟩

section Pieces

theorem Attends.heartbeat (h : x.Attends c e u calls next tick w t₀ n) (hc : Brisk c)
    {hs : List Nat}
    (hp : Generator.postpone? x.scene.now x.generator.config.heartbeatInterval
      x.generator.heartbeats = some hs) :
    IsUp c e u calls (x.emit (Generator.publishHeartbeat
      (Broker.link (.generator Feed.generatorName) 0)
        { x.generator with heartbeats := hs } x.scene)) := by
  obtain ⟨hnow, hput⟩ := h.serves.postponed_heartbeat hp
  rw [hc.due_heartbeat] at hput
  subst hput
  obtain ⟨o, m, heffect⟩ := Generator.publishHeartbeat_effect
    (k := .generator Feed.generatorName) (l := 0)
    { x.generator with heartbeats := [next + c.generator.heartbeatInterval] } x.scene
  rw [heffect]
  have hserves := h.serves
  have hbudget := h.budget
  have hpos := hc.positive
  refine ⟨next + c.generator.heartbeatInterval, tick, w, t₀, n,
    h.emit [.heartbeat x.generator.epoch]
      (hserves.emit [.heartbeat x.generator.epoch] hserves.generatorHeld hserves.wired
        hserves.epoch hserves.config rfl hserves.ticks rfl rfl ?_ ?_ ?_)
      rfl rfl rfl h.alone.2 (.inr ⟨hnow, by simp⟩) ?_⟩
  · have hahead := hserves.ahead
    omega
  · have hsoon := hserves.soon
    omega
  · intro msg hmsg
    rw [List.mem_singleton.mp hmsg]
    exact hserves.epoch
  · simp only [List.length_singleton]
    omega

theorem Attends.trade (h : x.Attends c e u calls next tick w t₀ n) (hc : Brisk c) {ts : List Nat}
    (hp : Generator.postpone? x.scene.now x.generator.config.tickInterval
      x.generator.ticks = some ts) :
    IsUp c e u calls (x.emit (Generator.tick (Broker.link (.generator Feed.generatorName) 0)
      { x.generator with ticks := ts } x.scene).2) := by
  obtain ⟨hnow, tick', rfl, hlt, hsoon⟩ := h.serves.postponed_tick hc.toSteady hp
  have hahead : x.scene.now ≤ tick' := hnow ▸ Nat.le_of_lt hlt
  have hserves := h.serves
  have hbudget := h.budget
  obtain ⟨o, m, heffect⟩ := Generator.tick_effect (k := .generator Feed.generatorName) (l := 0)
    (g := { x.generator with ticks := [tick'] }) hserves.wired hserves.generatorHeld x.scene
  rw [heffect]
  let traded : Generator :=
    { x.generator with ticks := [tick'], market := (x.generator.market.tick x.scene.clock).2 }
  let event := traded.market.tickEvent (x.generator.market.tick x.scene.clock).1
  obtain ⟨hone, hepoch⟩ := Generator.emits_le_one event traded
  refine ⟨next, tick', w, t₀, n, h.emit (traded.emits event)
    (hserves.emit (traded.emits event) hserves.generatorHeld hserves.wired hserves.epoch
      hserves.config hserves.heartbeats rfl rfl rfl ⟨hserves.ahead.1, hahead⟩
      ⟨hserves.soon.1, hsoon⟩ (fun msg hmsg => (hepoch msg hmsg).trans hserves.epoch))
    rfl rfl rfl h.alone.2 (.inl rfl) ?_⟩
  omega

theorem Attends.generatorHears (h : x.Attends c e u calls next tick w t₀ n) {p : Payload}
    {b : Broker Party} (hg : x.bus.Gives (.generator Feed.generatorName) (.payload p) b) :
    IsUp c e u calls (x.emit (Generator.receive (Broker.link (.generator Feed.generatorName) 0) p
      x.generator (x.taken b))) := by
  obtain ⟨-, ⟨rest, hold, hnew⟩, hother, hopen⟩ := h.serves.line.pop hg
  have hsame : b.backlog .adapter = x.bus.backlog .adapter := hother _ (by simp)
  have hbudget := h.budget
  rw [hold, List.length_cons] at hbudget
  have htaken : Attends c e u calls next tick w t₀ n { x with scene := x.taken b } :=
    { h with
      serves := h.serves.taken hg
      sessions := ⟨(hopen _).trans h.sessions.1, (hopen _).trans h.sessions.2⟩
      fresh := by
        show _ ∨ _ ∨ b.backlog .adapter ≠ [] ∧ _
        rw [hsame]
        exact h.fresh
      budget := by
        show n + (b.backlog .adapter).length + (b.backlog _).length +
          x.adapter.book.pending.length + 2 * t₀ ≤ _
        rw [hsame, hnew]
        omega }
  have hserves := htaken.serves
  rcases Generator.receive_effect (k := .generator Feed.generatorName) (l := 0) hserves.wired
    hserves.generatorHeld p (x.taken b) with ⟨-, m, heffect⟩ | ⟨r, -, o, m, heffect⟩
  · rw [heffect]
    exact ⟨next, tick, w, t₀, n, { htaken with serves := { hserves with } }⟩
  · rw [heffect]
    obtain ⟨⟨gate, hgate⟩, hone, hepoch⟩ := Generator.answers_le_one r x.generator
    rw [hgate]
    refine ⟨next, tick, w, t₀, n, htaken.emit (x.generator.answers r).2
      (hserves.emit (x.generator.answers r).2 hserves.generatorHeld hserves.wired hserves.epoch
        hserves.config hserves.heartbeats hserves.ticks rfl rfl hserves.ahead hserves.soon
        (fun msg hmsg => (hepoch msg hmsg).trans hserves.epoch))
      rfl rfl rfl h.alone.2 (.inl rfl) ?_⟩
    show n + (b.backlog .adapter).length + _ + (b.backlog _).length +
      x.adapter.book.pending.length + 2 * t₀ ≤ _
    rw [hsame, hnew]
    omega

theorem Attends.round (h : x.Attends c e u calls next tick w t₀ n) :
    IsUp c e u calls
      (x.act (Adapter.dispatchRound (Broker.link .adapter 0) x.adapter x.scene)) := by
  have hserves := h.serves
  have hbudget := h.budget
  obtain ⟨o, m, heffect⟩ := Adapter.dispatchRound_effect (k := .adapter) (l := 0)
    hserves.adapterHeld x.scene
  rw [heffect]
  let sent := x.bus.sendAll .adapter .requests
    (x.adapter.book.pending.map Adapter.requestOctets)
  have hself : sent.backlog .adapter = x.bus.backlog .adapter :=
    hserves.line.backlog_sendAll_self onAdapter _
  have hlen : (sent.backlog (.generator Feed.generatorName)).length ≤
      (x.bus.backlog (.generator Feed.generatorName)).length +
        (x.adapter.book.pending.map Adapter.requestOctets).length :=
    hserves.line.length_backlog_sendAll_le onAdapter
  rw [List.length_map] at hlen
  refine ⟨next, tick, w, t₀, n, h.act (hserves.act _ hserves.adapterHeld rfl rfl rfl) rfl
    (hserves.line.isSome_session?_sendAll onAdapter _) h.alone.1 h.watchdogs h.known h.connected
    h.counter (.inr ⟨rfl, hself⟩) (Nat.zero_le _) ?_ h.told⟩
  show n + (sent.backlog .adapter).length +
    (sent.backlog (.generator Feed.generatorName)).length + 0 + 2 * t₀ ≤ _
  rw [hself]
  omega

/-- What the adapter hears is of the known run, and is counted. -/
theorem Attends.adapterHears (h : x.Attends c e u calls next tick w t₀ n) {p : Payload}
    {b : Broker Party} (hg : x.bus.Gives .adapter (.payload p) b) :
    IsUp c e u calls (x.act (Adapter.receive p x.adapter (x.taken b))) := by
  obtain ⟨-, ⟨rest, hold, hnew⟩, hother, hopen⟩ := h.serves.line.pop hg
  have hsame : b.backlog (.generator Feed.generatorName) =
      x.bus.backlog (.generator Feed.generatorName) := hother _ (by simp)
  have hserves := h.serves.taken hg
  have hbudget := h.budget
  rw [hold, List.length_cons] at hbudget
  obtain ⟨msg, hmsg, hepoch⟩ := h.serves.announces p (by simp [hold])
  have hheard : ∀ {a : Adapter String} {s : Scene (Broker Party) String},
      a.released = false → a.config = x.adapter.config →
      a.supervisors = x.adapter.supervisors → a.watchdogs = x.adapter.watchdogs →
      a.book.liveness = (Adapter.counted e x.adapter.book).liveness →
      a.book.pending = x.adapter.book.pending → s.now = x.scene.now → s.bus = b →
      Note.Told u e s.journal.toList →
      IsUp c e u calls (x.act (a, s)) := by
    intro a s hr hconfig hv hw hl hp hn hb ht
    have hknown : x.adapter.book.liveness.epoch = some e := h.known
    have hlive : a.book.liveness =
        ⟨true, some e, x.adapter.book.liveness.stallCounter + 1⟩ := by
      rw [hl, Adapter.counted, Book.observe, Liveness.observe, if_pos hknown, ← hknown]
    have hcount : a.book.liveness.stallCounter = w.lastSeen + UInt64.ofNat (n + 1) := by
      rw [hlive, h.counter, UInt64.ofNat_add, ← UInt64.add_assoc]
      rfl
    subst hb
    refine ⟨next, tick, w, t₀, n + 1, h.act (hserves.act [] hr hconfig hn rfl) hn hopen
      (hv.trans h.alone.1) (hw.trans h.watchdogs) (by rw [Adapter.epoch?, hlive]) (by rw [hlive])
      hcount (.inl (Nat.succ_ne_zero n)) (hp ▸ h.asked) ?_ ht⟩
    rw [hnew, hsame, hp]
    omega
  generalize hr : Adapter.receive p x.adapter (x.taken b) = r
  cases hr ▸ Adapter.receive_effect p x.adapter (x.taken b) with
  | ignored m hd =>
      rw [hmsg] at hd
      cases hd
  | anew msg' m hd he =>
      rw [hmsg] at hd
      cases hd
      exact absurd (h.known.trans (congrArg some hepoch.symm)) he
  | known msg' m hd he hu =>
      rw [hmsg] at hd
      cases hd
      refine hheard h.serves.adapterHeld rfl rfl rfl ?_ rfl rfl rfl ?_
      · rw [hepoch]
      · rw [Array.toList_push]
        exact h.told.push (Note.plain_heard _ _)
  | delivered u sub m hd he hs hid =>
      rw [hmsg] at hd
      cases hd
      refine hheard h.serves.adapterHeld rfl rfl rfl ?_ rfl rfl rfl ?_
      · rw [← hepoch]
        rfl
      · rw [Array.toList_push, Array.toList_push]
        refine (h.told.push (Note.plain_heard _ _)).push (Note.plain_called ?_)
        cases sub.snapshotSent <;> simp

/-- The watchdog finds that its counter has moved, and goes on. -/
theorem Attends.looks (h : x.Attends c e u calls next tick w t₀ n) (hc : Brisk c)
    (hcalls : calls < UInt64.size / 2) {r : Adapter String × Scene (Broker Party) String}
    {ws done : List Watchdog} (hws : x.adapter.watchdogs = done ++ ws)
    (hr : Adapter.watchFrom x.adapter x.scene done ws = some r) : IsUp c e u calls (x.act r) := by
  obtain ⟨pre, v, post, rfl, hdue, rfl⟩ := Adapter.watchFrom_cases hr
  obtain ⟨rfl, rfl, rfl, rfl⟩ : done = [] ∧ pre = [] ∧ v = w ∧ post = [] := by
    rw [h.watchdogs] at hws
    simpa [List.append_eq_cons_iff] using hws.symm
  have hserves := h.serves
  have hahead := hserves.ahead
  have hsoon := hserves.soon
  have hbudget := h.budget
  have hasked := h.asked
  have hwake := h.wake
  have hwatch : c.generator.heartbeatInterval < min c.adapter.watchdogInterval Timer.longest :=
    Nat.lt_min.mpr ⟨hc.below, hc.within⟩
  have hlongest : min c.adapter.watchdogInterval Timer.longest ≤ Timer.longest :=
    Nat.min_le_right _ _
  have hwithin := hc.within
  have hthirty : Timer.longest = 946080000000 := rfl
  have hnow : x.scene.now = t₀ + min c.adapter.watchdogInterval Timer.longest :=
    (Nat.le_antisymm h.between.2 hdue).trans hwake
  have hheard : n ≠ 0 := by
    rcases h.fresh with hn | hn | ⟨-, hn⟩
    · exact hn
    · omega
    · omega
  have hfew : n < UInt64.size := by
    have hsize : UInt64.size = 2 ^ 64 := rfl
    omega
  have hmoved : x.adapter.book.liveness.stallCounter ≠ v.lastSeen := by
    intro hsame
    have hcount := h.counter
    rw [hsame] at hcount
    exact hheard (Adapter.eq_zero_of_add_ofNat hfew hcount)
  generalize hl : Adapter.look v x.adapter x.scene = l
  cases hl ▸ Adapter.look_effect v x.adapter x.scene with
  | silent he hb hsame => exact absurd hsame hmoved
  | retired hnot => exact absurd ⟨h.known.trans (congrArg some h.run.symm), h.connected⟩ hnot
  | moved he hb hne =>
      have hadapter := hserves.line.length_backlog_le .adapter
      have hgenerator := hserves.line.length_backlog_le (.generator Feed.generatorName)
      have hcap := hserves.capacity
      refine ⟨next, tick,
        ⟨v.epoch, x.adapter.book.liveness.stallCounter,
          Timer.due x.scene.now x.adapter.config.watchdogInterval⟩, x.scene.now, 0, ?_⟩
      exact
        { h with
          serves := hserves.act [] hserves.adapterHeld rfl rfl rfl
          watchdogs := rfl
          wake := by rw [hserves.interval]
          between := ⟨Nat.le_refl _, Nat.le_add_right _ _⟩
          counter := (UInt64.add_zero _).symm
          fresh := .inr (.inl hsoon.1)
          budget := by
            show 0 + (x.bus.backlog .adapter).length +
              (x.bus.backlog (.generator Feed.generatorName)).length +
              x.adapter.book.pending.length + 2 * x.scene.now ≤ _
            omega }

/-- Once it is up a feed stays up, whatever piece of work is done. -/
theorem Attends.piece (h : x.Attends c e u calls next tick w t₀ n) (hc : Brisk c)
    (hcalls : calls < UInt64.size / 2) (hp : x.Piece Feed.generatorName y) :
    IsUp c e u calls y := by
  cases hp with
  | adapterDials place r hr =>
      rw [h.alone.1, List.take_nil, List.drop_nil] at hr
      cases hr
  | adapterLooks place r hr => exact h.looks hc hcalls (List.take_append_drop place _).symm hr
  | generatorDials place r hr =>
      rw [h.alone.2, List.take_nil, List.drop_nil] at hr
      cases hr
  | heartbeat hs hp => exact h.heartbeat hc hp
  | trade ts hp => exact h.trade hc hp
  | round hr => exact h.round
  | adapterHears p b hg => exact h.adapterHears hg
  | adapterLoses b hg => exact absurd hg h.serves.line.not_lost
  | generatorHears p b hg => exact h.generatorHears hg
  | generatorLoses b hg => exact absurd hg h.serves.line.not_lost

theorem Attends.atTime (h : x.Attends c e u calls next tick w t₀ n)
    (hi : x.Idle Feed.generatorName) {t : Nat} (ht : x.scene.now ≤ t)
    (hw : ∀ wake ∈ x.adapter.wakes ++ x.generator.wakes, t ≤ wake) :
    (x.atTime t).Attends c e u calls next tick w t₀ n := by
  have hpresent : x.adapter.isPresent = true := by
    simp [Adapter.isPresent, h.serves.adapterHeld]
  have hwake : t ≤ w.wake := hw w.wake (by simp [Adapter.wakes, hpresent, h.watchdogs])
  exact
    { h with
      serves := h.serves.atTime ht hw
      between := ⟨Nat.le_trans h.between.1 ht, hwake⟩
      begun := Nat.le_trans h.begun ht
      fresh := by
        rcases h.fresh with hn | hn | ⟨hne, -⟩
        · exact .inl hn
        · exact .inr (.inl hn)
        · exact absurd (backlog_of_idle hi .adapter) hne }

end Pieces

section Calls

/-- A call of the consumer that is let through, or none at all, leaves the feed up. -/
theorem Attends.called (h : x.Attends c e u calls next tick w t₀ n) {a : Adapter String}
    {s : Scene (Broker Party) String} (hr : a.released = false)
    (hconfig : a.config = x.adapter.config) (hv : a.supervisors = x.adapter.supervisors)
    (hw : a.watchdogs = x.adapter.watchdogs) (hl : a.book.liveness = x.adapter.book.liveness)
    (hp : a.book.pending.length ≤ x.adapter.book.pending.length + 1)
    (hn : s.now = x.scene.now) (hb : s.bus = x.bus)
    (ht : Note.Told u e s.journal.toList) :
    IsUp c e u (calls + 1) (x.act (a, s)) := by
  have hbudget := h.budget
  have hasked := h.asked
  refine ⟨next, tick, w, t₀, n, h.act (h.serves.act [] hr hconfig hn hb) hn (by simp [hb])
    (hv.trans h.alone.1) (hw.trans h.watchdogs) ?_ (hl ▸ h.connected) (hl ▸ h.counter)
    (.inr ⟨rfl, by rw [hb]⟩) (by omega) ?_ ht⟩
  · rw [Adapter.epoch?, hl]
    exact h.known
  · rw [hb]
    omega

theorem Attends.call (h : x.Attends c e u calls next tick w t₀ n) (items : List String)
    {k : Feed.Call} (hk : k.isCalm = true) : IsUp c e u (calls + 1) (x.call items k) := by
  have hopen : x.adapter.epoch? ≠ none := by simp [h.known]
  have hheld := h.serves.adapterHeld
  cases k with
  | start => cases hk
  | shutdown => cases hk
  | available value =>
      obtain rfl : value = true := hk
      have hsame : x.call items (.available true) = x.act (x.adapter, x.scene) := by
        show ({ x with scene := { x.scene with bus := x.bus.setAvailable true } } : Duo) = _
        rw [h.serves.line.setAvailable]
        rfl
      rw [hsame]
      exact h.called hheld rfl rfl rfl rfl (Nat.le_succ _) rfl rfl h.told
  | clock seconds => exact h.called hheld rfl rfl rfl rfl (Nat.le_succ _) rfl rfl h.told
  | subscribe item handle =>
      show IsUp c e u (calls + 1) (x.act (x.adapter.subscribe item handle x.scene).2)
      generalize hr : (x.adapter.subscribe item handle x.scene).2 = r
      cases hr ▸ Adapter.subscribe_effect item handle x.adapter x.scene with
      | refused => exact h.called hheld rfl rfl rfl rfl (Nat.le_succ _) rfl rfl h.told
      | requested i handle hup =>
          refine h.called hheld rfl rfl rfl rfl ?_ rfl rfl ?_
          · simp [Book.push, Book.insert]
          · show Note.Told _ _ (x.scene.journal.push _).toList
            rw [Array.toList_push]
            exact h.told.push (Note.plain_subscribed _ _)
      | idle i handle subs m notes hnone hcalls => exact absurd hnone hopen
  | unsubscribe item =>
      show IsUp c e u (calls + 1) (x.act ((x.adapter.unsubscribe item).2, x.scene))
      generalize hr : (x.adapter.unsubscribe item).2 = r
      cases hr ▸ Adapter.unsubscribe_effect item x.adapter with
      | refused => exact h.called hheld rfl rfl rfl rfl (Nat.le_succ _) rfl rfl h.told
      | requested i sub hup hs =>
          refine h.called hheld rfl rfl rfl rfl ?_ rfl rfl h.told
          simp [Book.push, Book.remove]
      | idle i hnone => exact absurd hnone hopen

end Calls

section Packed

theorem IsUp.call (h : x.IsUp c e u calls) (items : List String) {k : Feed.Call}
    (hk : k.isCalm = true) : (x.call items k).IsUp c e u (calls + 1) := by
  obtain ⟨next, tick, w, t₀, n, h⟩ := h
  exact h.call items hk

theorem IsUp.piece (h : x.IsUp c e u calls) (hc : Brisk c) (hcalls : calls < UInt64.size / 2)
    (hp : x.Piece Feed.generatorName y) : y.IsUp c e u calls := by
  obtain ⟨next, tick, w, t₀, n, h⟩ := h
  exact h.piece hc hcalls hp

theorem IsUp.atTime (h : x.IsUp c e u calls) (hi : x.Idle Feed.generatorName) {t : Nat}
    (ht : x.scene.now ≤ t) (hw : ∀ wake ∈ x.adapter.wakes ++ x.generator.wakes, t ≤ wake) :
    (x.atTime t).IsUp c e u calls := by
  obtain ⟨next, tick, w, t₀, n, h⟩ := h
  exact ⟨next, tick, w, t₀, n, h.atTime hi ht hw⟩

end Packed

end Attending

end Duo

end QuoteBridge
