import QuoteBridge.Proofs.Feed.Service

/-!
# A feed that waits for its first message

Before the start nothing happens but calls of the consumer.  From the start on both parties connect
at once, and the first message is the heartbeat of the instant `u`.

**Results.**
* `Duo.Rests.piece`: there is no work before the start.
* `Duo.Rests.start`: the start sets the first heartbeat.
* `Duo.Awaits.piece`: before the first heartbeat nothing is heard, and the first one is taken up.
* `Duo.Awaits.progress`: a feed that waits comes up if nothing else is asked of it.
-/

namespace QuoteBridge

/-- A party's supervisors after its start: the first one, or none once it has connected. -/
inductive Starts (u now newest : Nat) (vs : List Supervisor) (session : Option Session) : Prop
  | begins (v : Supervisor) (hv : vs = [v]) (hg : v.generation = newest) (hp : v.phase = .ready)
      (hn : now < u) (hs : session = none)
  | done (hv : vs = []) (hs : session.isSome = true)

theorem Starts.done_of_le {u now newest : Nat} {vs : List Supervisor} {session : Option Session}
    (h : Starts u now newest vs session) (hn : u ≤ now) : vs = [] ∧ session.isSome = true := by
  cases h with
  | begins v hv hg hp hlt hs => omega
  | done hv hs => exact ⟨hv, hs⟩

theorem Starts.congr {u now newest : Nat} {vs : List Supervisor} {session session' : Option Session}
    (h : Starts u now newest vs session) (hs : session'.isSome = session.isSome) :
    Starts u now newest vs session' := by
  cases h with
  | begins v hv hg hp hn hnone =>
      refine .begins v hv hg hp hn ?_
      rw [hnone] at hs
      simpa using hs
  | done hv hopen => exact .done hv (hs.trans hopen)

namespace Duo

variable {c : Config} {e : Epoch} {u next tick : Nat} {x y : Duo}

section Awaiting

/-- No message was heard so far, and nothing is under way but the first heartbeat. -/
structure Awaits (c : Config) (e : Epoch) (u next tick : Nat) (x : Duo) : Prop where
  serves : x.Serves c e next tick
  adapterStarts : Starts u x.scene.now x.adapter.newest x.adapter.supervisors
    (x.bus.session? .adapter)
  generatorStarts : Starts u x.scene.now x.generator.newest x.generator.supervisors
    (x.bus.session? (.generator Feed.generatorName))
  unknown : x.adapter.epoch? = none
  pending : x.adapter.book.pending = []
  rounds : x.adapter.rounds = 0
  watchdogs : x.adapter.watchdogs = []
  gate : ∀ i, x.generator.gate.tenure? i = none
  quiet : x.bus.backlog (.generator Feed.generatorName) = []
  unheard : ∀ t e b, .heard t e b ∉ x.scene.journal.toList
  first : next = u ∧ x.bus.backlog .adapter = [] ∨ x.scene.now = u ∧ x.bus.backlog .adapter ≠ []

/-- Work and time left before the first message, at most. -/
def toil (u next tick : Nat) (x : Duo) : Nat :=
  x.adapter.supervisors.length + x.generator.supervisors.length + (u + 1 - next) + (u + 1 - tick) +
    (u - x.scene.now)

/-- The feed waits for its first message with less than the given toil. -/
def Waits (c : Config) (e : Epoch) (u m : Nat) (x : Duo) : Prop :=
  ∃ next tick, x.Awaits c e u next tick ∧ x.toil u next tick < m

theorem Awaits.now_le (h : x.Awaits c e u next tick) : x.scene.now ≤ u := by
  have hahead := h.serves.ahead.1
  rcases h.first with ⟨hnext, -⟩ | ⟨hnow, -⟩ <;> omega

/-- At the first heartbeat both parties have connected. -/
theorem Awaits.connected_of_le (h : x.Awaits c e u next tick) (hle : u ≤ x.scene.now) :
    (x.adapter.supervisors = [] ∧ x.generator.supervisors = []) ∧
      (x.bus.session? .adapter).isSome = true ∧
        (x.bus.session? (.generator Feed.generatorName)).isSome = true := by
  obtain ⟨hnone, hopen⟩ := h.adapterStarts.done_of_le hle
  obtain ⟨hnone', hopen'⟩ := h.generatorStarts.done_of_le hle
  exact ⟨⟨hnone, hnone'⟩, hopen, hopen'⟩

theorem Awaits.dialAdapter (h : x.Awaits c e u next tick)
    {r : Adapter String × Scene (Broker Party) String}
    {vs done : List Supervisor} (hvs : x.adapter.supervisors = done ++ vs)
    (hr : Adapter.superviseFrom (Broker.link .adapter 0) x.adapter x.scene done vs = some r) :
    Waits c e u (x.toil u next tick) (x.act r) := by
  have hs := h.serves
  cases h.adapterStarts with
  | done hv hopen =>
      obtain ⟨rfl, rfl⟩ := List.append_eq_nil_iff.mp (hvs.symm.trans hv)
      cases hr
  | begins v hv hg hp hn hnone =>
      obtain ⟨hok, hline, hopen, hnil, hother⟩ := hs.line.redial onAdapter
      have hne : Party.generator Feed.generatorName ≠ .adapter := by simp
      have hempty : x.bus.backlog .adapter = [] := by simp [Broker.backlog, hnone]
      have hnext : next = u := by
        rcases h.first with ⟨hnext, -⟩ | ⟨-, hwaits⟩
        · exact hnext
        · exact absurd hempty hwaits
      obtain ⟨m, ⟨-, rfl⟩ | ⟨due, f, hf, -⟩⟩ :=
        Adapter.superviseFrom_single hs.adapterHeld hv hg (Or.inl hp) hvs hr
      · refine ⟨next, tick, ?_, by simp [toil, act, hv]⟩
        exact
          { h with
            serves :=
              { hs with
                line := hline
                capacity := Nat.le_trans (Nat.le_of_eq (Broker.capacity_connect _ _)) hs.capacity
                announces := fun p hp => by
                  have hp' : p ∈ ((x.bus.reset .adapter).connect .adapter).2.backlog .adapter := hp
                  rw [hnil] at hp'
                  cases hp' }
            adapterStarts := .done rfl hopen
            generatorStarts := h.generatorStarts.congr (congrArg Option.isSome (hother _ hne))
            quiet := (Broker.backlog_congr (hother _ hne)).trans h.quiet
            first := .inl ⟨hnext, hnil⟩ }
      · rw [hok] at hf
        cases hf

theorem Awaits.dialGenerator (h : x.Awaits c e u next tick)
    {r : Generator × Scene (Broker Party) String}
    {vs done : List Supervisor} (hvs : x.generator.supervisors = done ++ vs)
    (hr : Generator.superviseFrom (Broker.link (.generator Feed.generatorName) 0) x.generator
      x.scene done vs = some r) :
    Waits c e u (x.toil u next tick) (x.emit r) := by
  have hs := h.serves
  cases h.generatorStarts with
  | done hv hopen =>
      obtain ⟨rfl, rfl⟩ := List.append_eq_nil_iff.mp (hvs.symm.trans hv)
      cases hr
  | begins v hv hg hp hn hnone =>
      obtain ⟨hok, hline, hopen, hnil, hother⟩ := hs.line.redial onGenerator
      have hsame := hother .adapter (by simp)
      have hbacklog := Broker.backlog_congr hsame
      obtain ⟨m, ⟨-, rfl⟩ | ⟨due, f, hf, -⟩⟩ :=
        Generator.superviseFrom_single hs.generatorHeld hv hg (Or.inl hp) hvs hr
      · refine ⟨next, tick, ?_, by simp [toil, emit, hv]⟩
        exact
          { h with
            serves :=
              { hs with
                line := hline
                capacity := Nat.le_trans (Nat.le_of_eq (Broker.capacity_connect _ _)) hs.capacity
                announces := fun p hp => hs.announces p (hbacklog ▸ hp) }
            adapterStarts := h.adapterStarts.congr (congrArg Option.isSome hsame)
            generatorStarts := .done rfl hopen
            quiet := hnil
            first := by
              have hfirst := h.first
              rw [← hbacklog] at hfirst
              exact hfirst }
      · rw [hok] at hf
        cases hf

/-- The heartbeats of a feed that still waits: the first one goes to the adapter's session. -/
theorem Awaits.heartbeat (h : x.Awaits c e u next tick) (hc : Steady c) {hs : List Nat}
    (hp : Generator.postpone? x.scene.now x.generator.config.heartbeatInterval
      x.generator.heartbeats = some hs) :
    Waits c e u (x.toil u next tick) (x.emit (Generator.publishHeartbeat
      (Broker.link (.generator Feed.generatorName) 0)
      { x.generator with heartbeats := hs } x.scene)) := by
  obtain ⟨hnow, rfl⟩ := h.serves.postponed_heartbeat hp
  have hserves := h.serves
  have hlater := Timer.lt_due next hc.positive
  have hsoon := Timer.due_le next c.generator.heartbeatInterval
  have hdue : x.scene.now = u := by
    rcases h.first with ⟨hnext, -⟩ | ⟨hdue, -⟩
    · exact hnow.trans hnext
    · exact hdue
  obtain ⟨-, hopen, hopen'⟩ := h.connected_of_le (Nat.le_of_eq hdue.symm)
  obtain ⟨o, m, heffect⟩ := Generator.publishHeartbeat_effect
    (k := .generator Feed.generatorName) (l := 0)
    { x.generator with heartbeats := [Timer.due next c.generator.heartbeatInterval] } x.scene
  rw [heffect]
  have hsessions := hserves.line.isSome_session?_sendAll onGenerator
    [(Message.heartbeat x.generator.epoch).encode]
  refine ⟨Timer.due next c.generator.heartbeatInterval, tick, ?_,
    by simp only [toil, emit]; omega⟩
  exact
    { h with
      serves := by
        refine hserves.emit [.heartbeat x.generator.epoch] hserves.generatorHeld hserves.wired
          hserves.epoch hserves.config rfl hserves.ticks rfl rfl ?_ ?_ ?_
        · have hahead := hserves.ahead
          omega
        · have hsoon' := hserves.soon
          omega
        · intro msg hmsg
          rw [List.mem_singleton.mp hmsg]
          exact hserves.epoch
      adapterStarts := h.adapterStarts.congr (hsessions _)
      generatorStarts := h.generatorStarts.congr (hsessions _)
      quiet := (hserves.line.backlog_sendAll_self onGenerator _).trans h.quiet
      first := .inr ⟨hdue,
        hserves.line.backlog_sendAll_ne_nil onGenerator hopen' hopen (.inr (by simp))⟩ }

/-- Trades before the first subscription reaches the generator are not published. -/
theorem Awaits.trade (h : x.Awaits c e u next tick) (hc : Steady c) {ts : List Nat}
    (hp : Generator.postpone? x.scene.now x.generator.config.tickInterval
      x.generator.ticks = some ts) :
    Waits c e u (x.toil u next tick)
      (x.emit (Generator.tick (Broker.link (.generator Feed.generatorName) 0)
        { x.generator with ticks := ts } x.scene).2) := by
  obtain ⟨hnow, tick', rfl, hlt, hsoon⟩ := h.serves.postponed_tick hc hp
  have hahead : x.scene.now ≤ tick' := hnow ▸ Nat.le_of_lt hlt
  have hle := h.now_le
  have hserves := h.serves
  obtain ⟨o, m, heffect⟩ := Generator.tick_effect (k := .generator Feed.generatorName) (l := 0)
    (g := { x.generator with ticks := [tick'] }) hserves.wired hserves.generatorHeld x.scene
  let traded : Generator :=
    { x.generator with ticks := [tick'], market := (x.generator.market.tick x.scene.clock).2 }
  let event := traded.market.tickEvent (x.generator.market.tick x.scene.clock).1
  obtain ⟨hnothing, hpassed⟩ := Generator.emits_of_empty (g := traded) h.gate event
  have hsilent : (Generator.tick (Broker.link (.generator Feed.generatorName) 0)
      { x.generator with ticks := [tick'] } x.scene).2 =
        ({ traded with outbox := o }, { x.scene with metrics := m }) := by
    rw [heffect]
    show (({ traded.passed event with outbox := o } : Generator),
      ({ x.scene with
        bus := x.bus.sendAll (.generator Feed.generatorName) .updates
          ((traded.emits event).map Message.encode)
        metrics := m } : Scene (Broker Party) String)) = _
    rw [hnothing, hpassed]
    rfl
  rw [hsilent]
  have hstaff : traded.supervisors.length = x.generator.supervisors.length := rfl
  refine ⟨next, tick', ?_, by simp only [toil, emit]; omega⟩
  exact
    { h with
      serves := hserves.emit [] hserves.generatorHeld hserves.wired hserves.epoch hserves.config
        hserves.heartbeats rfl rfl rfl ⟨hserves.ahead.1, hahead⟩ ⟨hserves.soon.1, hsoon⟩
        (by simp) }

/-- The first message is taken up: the feed is up, and a watchdog begins. -/
theorem Awaits.hears (h : x.Awaits c e u next tick) (calls : Nat) {p : Payload}
    {b : Broker Party} (hg : x.bus.Gives .adapter (.payload p) b) :
    IsUp c e u calls (x.act (Adapter.receive p x.adapter (x.taken b))) := by
  obtain ⟨hline, ⟨rest, hold, hnew⟩, hother, hopen⟩ := h.serves.line.pop hg
  have hsame : b.backlog (.generator Feed.generatorName) = [] :=
    (hother _ (by simp)).trans h.quiet
  have hserves := h.serves.taken hg
  have hdue : x.scene.now = u := by
    rcases h.first with ⟨-, hnil⟩ | ⟨hdue, -⟩
    · rw [hold] at hnil
      cases hnil
    · exact hdue
  obtain ⟨halone, hsession, hsession'⟩ := h.connected_of_le (Nat.le_of_eq hdue.symm)
  obtain ⟨msg, hmsg, rfl⟩ := h.serves.announces p (by simp [hold])
  generalize hr : Adapter.receive p x.adapter (x.taken b) = r
  cases hr ▸ Adapter.receive_effect p x.adapter (x.taken b) with
  | ignored m hd =>
      rw [hmsg] at hd
      cases hd
  | known msg' m hd he hu =>
      rw [h.unknown] at he
      cases he
  | delivered u sub m hd he hs hid =>
      rw [h.unknown] at he
      cases he
  | anew msg' m hd he =>
      rw [hmsg] at hd
      cases hd
      have hreplay := length_replay_le (x.adapter.book.observe msg.epoch).2
      have hwithin := hline.length_backlog_le .adapter
      have hcap := hserves.capacity
      have hahead := h.serves.ahead
      have hlive := Adapter.liveness_renewed he
      refine ⟨next, tick,
        ⟨msg.epoch, 0, Timer.due x.scene.now x.adapter.config.watchdogInterval⟩, x.scene.now, 0, ?_⟩
      exact
        { serves := hserves.act [] h.serves.adapterHeld rfl rfl rfl
          alone := halone
          sessions := ⟨(hopen _).trans hsession, (hopen _).trans hsession'⟩
          known := Adapter.epoch_renewed msg.epoch x.adapter.book
          connected := congrArg Liveness.busConnected hlive
          watchdogs := by
            show x.adapter.watchdogs ++ _ = _
            rw [h.watchdogs]
            rfl
          run := rfl
          wake := by rw [h.serves.interval]
          between := ⟨Nat.le_refl _, Nat.le_add_right _ _⟩
          begun := Nat.le_of_eq hdue.symm
          counter := congrArg Liveness.stallCounter hlive
          fresh := .inr (.inl h.serves.soon.1)
          asked := Nat.le_trans hreplay (Nat.le_add_right _ _)
          budget := by
            show 0 + (b.backlog .adapter).length +
              (b.backlog (.generator Feed.generatorName)).length +
              (x.adapter.book.observe msg.epoch).2.replay.length + 2 * x.scene.now ≤ _
            have hcap' : b.capacity ≤ 1024 := hcap
            rw [hsame]
            simp only [List.length_nil]
            omega
          told := by
            refine ⟨x.scene.journal.toList, [], ?_, h.unheard, by simp⟩
            rw [← hdue]
            exact Array.toList_push }

/-- Nothing but the first heartbeat changes a feed that waits for it. -/
theorem Awaits.piece (h : x.Awaits c e u next tick) (hc : Steady c) (calls : Nat)
    (hp : x.Piece Feed.generatorName y) :
    Waits c e u (x.toil u next tick) y ∨ IsUp c e u calls y := by
  cases hp with
  | adapterDials place r hr =>
      exact .inl (h.dialAdapter (List.take_append_drop place _).symm hr)
  | adapterLooks place r hr =>
      rw [h.watchdogs, List.take_nil, List.drop_nil] at hr
      cases hr
  | generatorDials place r hr =>
      exact .inl (h.dialGenerator (List.take_append_drop place _).symm hr)
  | heartbeat hs hp => exact .inl (h.heartbeat hc hp)
  | trade ts hp => exact .inl (h.trade hc hp)
  | round hr => exact absurd h.rounds hr
  | adapterHears p b hg => exact .inr (h.hears calls hg)
  | adapterLoses b hg => exact absurd hg h.serves.line.not_lost
  | generatorHears p b hg =>
      obtain ⟨-, ⟨rest, hold, -⟩, -⟩ := h.serves.line.pop hg
      rw [h.quiet] at hold
      cases hold
  | generatorLoses b hg => exact absurd hg h.serves.line.not_lost

/-- A party whose work is done has connected. -/
theorem Awaits.connected (h : x.Awaits c e u next tick) (hi : x.Idle Feed.generatorName) :
    (x.adapter.supervisors = [] ∧ (x.bus.session? .adapter).isSome = true) ∧
      x.generator.supervisors = [] ∧
        (x.bus.session? (.generator Feed.generatorName)).isSome = true := by
  have hadapter := hi.adapter
  have hgenerator := hi.generator
  constructor
  · cases h.adapterStarts with
    | done hv hs => exact ⟨hv, hs⟩
    | begins v hv hg hp hn hs =>
        simp [Adapter.step?, Adapter.superviseFrom, Supervisor.turnFirst, hv, Supervisor.isDue, hp]
          at hadapter
  · cases h.generatorStarts with
    | done hv hs => exact ⟨hv, hs⟩
    | begins v hv hg hp hn hs =>
        simp [Generator.step?, Generator.superviseFrom, Supervisor.turnFirst, hv, Supervisor.isDue,
          hp] at hgenerator

/-- A feed whose work is done still waits for the instant of the first heartbeat. -/
theorem Awaits.next_of_idle (h : x.Awaits c e u next tick) (hi : x.Idle Feed.generatorName) :
    next = u ∧ x.bus.backlog .adapter = [] := by
  rcases h.first with hfirst | ⟨-, hne⟩
  · exact hfirst
  · exact absurd (backlog_of_idle hi .adapter) hne

theorem Awaits.atTime (h : x.Awaits c e u next tick) (hi : x.Idle Feed.generatorName) {t : Nat}
    (ht : x.scene.now ≤ t) (hw : ∀ wake ∈ x.adapter.wakes ++ x.generator.wakes, t ≤ wake) :
    (x.atTime t).Awaits c e u next tick := by
  obtain ⟨⟨hv, hs⟩, hv', hs'⟩ := h.connected hi
  exact
    { h with
      serves := h.serves.atTime ht hw
      adapterStarts := .done hv hs
      generatorStarts := .done hv' hs'
      first := .inl (h.next_of_idle hi) }

/-- When its work is done the tasks of the generator are ahead. -/
theorem Awaits.lt_of_idle (h : x.Awaits c e u next tick) (hi : x.Idle Feed.generatorName) :
    x.scene.now < u ∧ x.scene.now < tick := by
  obtain ⟨hnext, -⟩ := h.next_of_idle hi
  obtain ⟨-, hv, -⟩ := h.connected hi
  have hgenerator := hi.generator
  simp only [Generator.step?, Generator.superviseFrom, Supervisor.turnFirst, hv] at hgenerator
  split at hgenerator
  · cases hgenerator
  · rename_i hheartbeat
    rw [h.serves.heartbeats] at hheartbeat
    split at hgenerator
    · cases hgenerator
    · rename_i htick
      rw [h.serves.ticks] at htick
      exact ⟨hnext ▸ Generator.lt_of_postpone?_single hheartbeat,
        Generator.lt_of_postpone?_single htick⟩

/-- A feed that waits is up some time later, if nothing else is asked of it. -/
theorem Awaits.progress (h : x.Awaits c e u next tick) (hc : Steady c) (calls : Nat)
    {cs : List Feed.Call} {f₀ : Feed}
    (hr : Feed.Run cs f₀ ⟨c, x.deploy Feed.generatorName⟩) :
    ∃ y, Feed.Run cs f₀ ⟨c, y.deploy Feed.generatorName⟩ ∧ IsUp c e u calls y := by
  induction hm : x.toil u next tick using Nat.strong_induction_on generalizing x next tick with
  | _ m ih =>
      subst hm
      cases hs : (x.deploy Feed.generatorName).step? with
      | some d =>
          obtain ⟨y, hp, -⟩ := step?_cases h.serves.line.joins hs
          rcases h.piece hc calls hp with ⟨next', tick', hy, hless⟩ | hup
          · exact ih _ hless hy (.worked hr hp) rfl
          · exact ⟨y, .worked hr hp, hup⟩
      | none =>
          have hi := idle_of_step?_eq_none hs
          obtain ⟨hnext, -⟩ := h.next_of_idle hi
          obtain ⟨hlt, hlt'⟩ := h.lt_of_idle hi
          obtain ⟨⟨hv, -⟩, hv', -⟩ := h.connected hi
          have hwakes : ∀ wake ∈ x.adapter.wakes ++ x.generator.wakes, min u tick ≤ wake := by
            simp only [Adapter.wakes, Generator.wakes, hv, hv', h.watchdogs, h.serves.heartbeats,
              h.serves.ticks, hnext]
            simp
          have hle : x.scene.now ≤ min u tick :=
            Nat.le_min.mpr ⟨Nat.le_of_lt hlt, Nat.le_of_lt hlt'⟩
          refine ih _ ?_ (h.atTime hi hle hwakes) (.waited (min u tick) hr hs hle ?_) rfl
          · have hless : u - min u tick < u - x.scene.now := by omega
            exact Nat.add_lt_add_left hless _
          · simpa [Deployment.wakes, deploy] using hwakes

/-- A call before anything was heard changes no more than the subscriptions, the clock and what the
consumer was told. -/
theorem call_of_unknown (hu : x.adapter.epoch? = none) (ho : x.bus.Open Feed.generatorName)
    (items : List String) {k : Feed.Call} (hk : k.isCalm = true) :
    ∃ book clock m journal,
      x.call items k =
        ⟨{ x.adapter with book := book }, x.generator,
          { x.scene with clock := clock, metrics := m, journal := journal }⟩ ∧
      book.liveness = x.adapter.book.liveness ∧ book.pending = x.adapter.book.pending ∧
      ∀ t e b, .heard t e b ∈ journal.toList → .heard t e b ∈ x.scene.journal.toList := by
  have hstays : ∀ {y : Duo}, y = x → ∃ book clock m journal,
      y = ⟨{ x.adapter with book := book }, x.generator,
        { x.scene with clock := clock, metrics := m, journal := journal }⟩ ∧
      book.liveness = x.adapter.book.liveness ∧ book.pending = x.adapter.book.pending ∧
      ∀ t e b, .heard t e b ∈ journal.toList → .heard t e b ∈ x.scene.journal.toList :=
    fun h => ⟨_, _, _, _, h, rfl, rfl, fun t e b hm => hm⟩
  cases k with
  | start => cases hk
  | shutdown => cases hk
  | available value =>
      obtain rfl : value = true := hk
      refine hstays ?_
      show ({ x with scene := { x.scene with bus := x.bus.setAvailable true } } : Duo) = x
      rw [ho.setAvailable]
  | clock seconds => exact ⟨_, seconds, _, _, rfl, rfl, rfl, fun t e b hm => hm⟩
  | subscribe item handle =>
      simp only [call, move]
      generalize hr : (x.adapter.subscribe item handle x.scene).2 = r
      cases hr ▸ Adapter.subscribe_effect item handle x.adapter x.scene with
      | refused => exact hstays rfl
      | requested i handle hup =>
          rw [hu] at hup
          cases hup
      | idle i handle subs m notes hnone hcalls =>
          refine ⟨_, _, m, _, rfl, rfl, rfl, fun t e b hm => ?_⟩
          rw [Array.toList_append, Array.toList_push] at hm
          rcases List.mem_append.mp hm with hm | hm
          · rcases List.mem_append.mp hm with hm | hm
            · exact hm
            · cases List.mem_singleton.mp hm
          · obtain ⟨call, hcall⟩ := hcalls _ (Array.mem_toList_iff.mp hm)
            cases hcall
  | unsubscribe item =>
      simp only [call, move]
      generalize hr : (x.adapter.unsubscribe item).2 = r
      cases hr ▸ Adapter.unsubscribe_effect item x.adapter with
      | refused => exact hstays rfl
      | requested i sub hup hs =>
          rw [hu] at hup
          cases hup
      | idle i hnone => exact ⟨_, _, _, _, rfl, rfl, rfl, fun t e b hm => hm⟩

theorem Awaits.call (h : x.Awaits c e u next tick) (items : List String) {k : Feed.Call}
    (hk : k.isCalm = true) : (x.call items k).Awaits c e u next tick := by
  obtain ⟨book, clock, m, journal, heq, hl, hp, hj⟩ :=
    call_of_unknown h.unknown h.serves.line items hk
  rw [heq]
  exact
    { h with
      serves := { h.serves with }
      unknown := (congrArg Liveness.epoch hl).trans h.unknown
      pending := hp.trans h.pending
      unheard := fun t e b hm => h.unheard t e b (hj t e b hm) }

end Awaiting

section Resting

/-- Nothing was started so far. -/
structure Rests (c : Config) (x : Duo) : Prop where
  line : x.bus.Open Feed.generatorName
  capacity : x.bus.capacity ≤ 1024
  unlinked : ∀ p, x.bus.session? p = none
  adapterHeld : x.adapter.released = false
  adapterConfig : x.adapter.config = c.adapterConfig
  adapterStaff : x.adapter.supervisors = []
  unknown : x.adapter.epoch? = none
  pending : x.adapter.book.pending = []
  rounds : x.adapter.rounds = 0
  watchdogs : x.adapter.watchdogs = []
  generatorHeld : x.generator.released = false
  generatorConfig : x.generator.config = c.generatorConfig
  generatorStaff : x.generator.supervisors = []
  epoch : x.generator.epoch = c.generator.epoch.getD 0
  tasks : x.generator.heartbeats = [] ∧ x.generator.ticks = []
  gate : ∀ i, x.generator.gate.tenure? i = none
  unheard : ∀ t e b, .heard t e b ∉ x.scene.journal.toList

/-- The broker of a feed that was only just built is open. -/
theorem open_builtBus (c : Config) : (Feed.builtBus c).Open Feed.generatorName where
  joins := Feed.joins_builtBus c
  available := rfl
  roomy := by
    show 0 < Broker.powerOfTwo Broker.defaultCapacity
    decide
  current hs := by
    rw [Feed.session?_builtBus] at hs
    cases hs
  within hs := by
    rw [Feed.session?_builtBus] at hs
    cases hs
  placed p ep hep := by
    obtain ⟨entry, hfind, rfl⟩ := Option.map_eq_some_iff.mp hep
    have hmem := List.mem_of_find?_eq_some hfind
    simp only [Feed.builtBus, List.mem_cons, List.not_mem_nil, or_false] at hmem
    rcases hmem with rfl | rfl <;>
      simp [Broker.missing?, Broker.isDeclared, Feed.builtBus, Endpoint.create]

/-- A feed that was only just built rests. -/
theorem rests_of_create {clock : Nat} {m : Metrics}
    (ha : Adapter.create c.adapterConfig = .ok x.adapter)
    (hg : Generator.create c.generatorConfig = .ok x.generator)
    (hs : x.scene = ⟨0, clock, Feed.builtBus c, m, #[]⟩) : x.Rests c := by
  obtain ⟨a, g, s⟩ := x
  obtain ⟨o, rfl⟩ := Adapter.eq_of_create ha
  obtain ⟨o', rfl⟩ := Generator.eq_of_create hg
  obtain rfl : s = _ := hs
  exact
    { line := open_builtBus c
      capacity := by
        show Broker.powerOfTwo Broker.defaultCapacity ≤ 1024
        decide
      unlinked := Feed.session?_builtBus c
      adapterHeld := rfl
      adapterConfig := rfl
      adapterStaff := rfl
      unknown := rfl
      pending := rfl
      rounds := rfl
      watchdogs := rfl
      generatorHeld := rfl
      generatorConfig := rfl
      generatorStaff := rfl
      epoch := rfl
      tasks := ⟨rfl, rfl⟩
      gate := fun i => Gate.tenure?_empty i
      unheard := fun t e b hm => by cases hm }

theorem Rests.call (h : x.Rests c) (items : List String) {k : Feed.Call}
    (hk : k.isCalm = true) : (x.call items k).Rests c := by
  obtain ⟨book, clock, m, journal, heq, hl, hp, hj⟩ :=
    call_of_unknown h.unknown h.line items hk
  rw [heq]
  exact
    { h with
      unknown := (congrArg Liveness.epoch hl).trans h.unknown
      pending := hp.trans h.pending
      unheard := fun t e b hm => h.unheard t e b (hj t e b hm) }

/-- There is no work before the start. -/
theorem Rests.piece (h : x.Rests c) (hp : x.Piece Feed.generatorName y) : False := by
  have hgives : ∀ {q i b}, ¬ x.bus.Gives q i b := by
    rintro q i b ⟨s, -, -, hs, -⟩
    rw [h.unlinked] at hs
    cases hs
  cases hp with
  | adapterDials place r hr =>
      rw [h.adapterStaff, List.take_nil, List.drop_nil] at hr
      cases hr
  | adapterLooks place r hr =>
      rw [h.watchdogs, List.take_nil, List.drop_nil] at hr
      cases hr
  | generatorDials place r hr =>
      rw [h.generatorStaff, List.take_nil, List.drop_nil] at hr
      cases hr
  | heartbeat hs hp =>
      rw [h.tasks.1] at hp
      cases hp
  | trade ts hp =>
      rw [h.tasks.2] at hp
      cases hp
  | round hr => exact hr h.rounds
  | adapterHears p b hg => exact hgives hg
  | adapterLoses b hg => exact hgives hg
  | generatorHears p b hg => exact hgives hg
  | generatorLoses b hg => exact hgives hg

/-- The start leaves two supervisors and the tasks of the generator behind, and subscribes. -/
theorem Rests.start (h : x.Rests c) (hc : Steady c) :
    ∃ next tick, (x.call c.items .start).Awaits c (c.generator.epoch.getD 0)
      (Timer.due x.scene.now c.generator.heartbeatInterval) next tick := by
  have hopen := (h.line.listen (p := .generator Feed.generatorName) 0).listen (p := .adapter) 0
  have hnone : ∀ p, ((x.bus.listen (.generator Feed.generatorName) 0).listen
      .adapter 0).session? p = none := by
    intro p
    rw [Broker.session?_listen, Broker.session?_listen, h.unlinked]
  have hnil : ∀ p, ((x.bus.listen (.generator Feed.generatorName) 0).listen
      .adapter 0).backlog p = [] := by
    intro p
    rw [Broker.backlog, hnone]
    rfl
  have hlater := Timer.lt_due x.scene.now hc.positive
  have hticks : x.generator.config.tickInterval ≠ 0 := by
    rw [h.generatorConfig]
    exact Nat.ne_of_gt hc.ticking
  refine subscribeAll_induction (I := fun y => ∃ next tick, y.Awaits c _ _ next tick)
    (fun item handle y hy => ?_) c.items
    ⟨Timer.due x.scene.now c.generator.heartbeatInterval, x.scene.now, ?_⟩
  · obtain ⟨next, tick, hy⟩ := hy
    exact ⟨next, tick, hy.call [] (k := .subscribe item handle) rfl⟩
  exact
    { serves :=
        { line := hopen
          capacity := h.capacity
          adapterHeld := h.adapterHeld
          interval := congrArg AdapterConfig.watchdogInterval h.adapterConfig
          generatorHeld := h.generatorHeld
          wired := rfl
          epoch := h.epoch
          config := h.generatorConfig
          heartbeats := by
            show x.generator.heartbeats ++ [Timer.due x.scene.now _] = _
            rw [h.tasks.1, h.generatorConfig, List.nil_append]
            rfl
          ticks := by
            show (if x.generator.config.tickInterval = 0 then _ else x.generator.ticks ++ _) = _
            rw [if_neg hticks, h.tasks.2]
            rfl
          ahead := ⟨Nat.le_of_lt hlater, Nat.le_refl _⟩
          soon := ⟨Timer.due_le _ _, Nat.le_add_right _ _⟩
          announces := fun p hp => by
            have hp' : p ∈ ((x.bus.listen (.generator Feed.generatorName) 0).listen
              .adapter 0).backlog .adapter := hp
            rw [hnil] at hp'
            cases hp' }
      adapterStarts := .begins _ (congrArg (· ++ _) h.adapterStaff) rfl rfl
        hlater (hnone _)
      generatorStarts := .begins _ (congrArg (· ++ _) h.generatorStaff) rfl rfl
        hlater (hnone _)
      unknown := h.unknown
      pending := h.pending
      rounds := h.rounds
      watchdogs := h.watchdogs
      gate := h.gate
      quiet := hnil _
      unheard := h.unheard
      first := .inl ⟨rfl, hnil _⟩ }

end Resting

end Duo

end QuoteBridge
