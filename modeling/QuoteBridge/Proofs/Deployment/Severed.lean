import QuoteBridge.Proofs.Deployment.Agreement

/-!
# A connection that the generator alone has lost

The generator forgets its registry with its session but keeps its epoch, so the adapter, which
replays its subscriptions to a new epoch only, does not notice.

**Order of work.**  After the loss the generator's next attempt, its timers and the adapter's
watchdogs go on in any order, and time may pass before any of them does.

**Results.**
* `Duo.Cut.piece`: until the generator connects again nothing is sent and nothing is handed out, and
  from then on its registry is followed from nothing.
* `Duo.Agreed.agree_iff`: when the registries agree of which only some items are covered.
* `Deployment.registries_agree_after_loss_iff`: the registries agree again just when a new producer
  run was heard since the loss, or every item of the adapter's registry was registered since.
* `Deployment.heartbeat_heals_nothing`: a heartbeat of the known run is not enough.
-/

namespace QuoteBridge

/-- Whether an entry of the journal is a heard message. -/
def Note.isHeard {H : Type} : Note H → Bool
  | .heard _ _ _ => true
  | _ => false

/-- The session of a generator is lost, and its transport tells the generator so. -/
def Deployment.sever (name : String) (d : Deployment (Broker Party)) : Deployment (Broker Party) :=
  (d.mapBus (Broker.reset (.generator name))).generatorLoses name

namespace Duo

variable {name : String} {start : Nat} {x : Duo}

/-- The duo whose generator was told that its session is lost. -/
def severed (name : String) (x : Duo) : Duo :=
  { x with
    generator := x.generator.transportError
    scene := { x.scene with bus := x.bus.reset (.generator name) } }

/-- The duo once the generator has opened a new session. -/
def redialed (name : String) (m : Metrics) (x : Duo) : Duo :=
  { x with
    generator := { x.generator with supervisors := [] }
    scene := { x.scene with
      bus := ((x.bus.reset (.generator name)).connect (.generator name)).2
      metrics := m } }

/-- The generator has no session and its only supervisor has not begun, while the adapter's session
is open and everything else is settled.  Once the generator has connected the duo agrees. -/
structure Cut (name : String) (start : Nat) (x : Duo) : Prop where
  closed : x.bus.session? (.generator name) = none
  silent : ∀ {p i b}, ¬ x.bus.Gives p i b
  adapterSupervisors : x.adapter.supervisors = []
  rounds : x.adapter.rounds = 0
  generatorSupervisors : ∃ pause,
    x.generator.supervisors = [.create x.generator.newest pause]
  connects : ((x.bus.reset (.generator name)).connect (.generator name)).1 = .ok ()
  resumes : ∀ m, (x.redialed name m).Agreed name start

section Loss

theorem severed_deploy (h : x.Sound name) :
    (x.deploy name).sever name = (x.severed name).deploy name := by
  have hp : x.generator.isPresent = true := by
    simp [Generator.isPresent, Supervisor.holdsOwner, h.generatorHeld]
  have hg : ((x.deploy name).mapBus (Broker.reset (.generator name))).generator? name =
      some x.generator := generator?_deploy x
  simp only [Deployment.sever, Deployment.generatorLoses, Deployment.withGenerator, hg, hp,
    if_true]
  simp [Deployment.setGenerator, Deployment.mapBus, deploy, severed]

/-- A broker that is available takes an endpoint back that had a session. -/
theorem redial_ok {b : Broker Party} (h : b.Sound name) {p : Party} {s : Session}
    (hs : b.session? p = some s) (ha : b.available = true) :
    ((b.reset p).connect p).1 = .ok () := by
  obtain ⟨e, he, -⟩ := Broker.endpoint?_isSome_of_session? hs
  have hplaces : (b.reset p).Places p := (h.placed hs).congr (Broker.roster_reset p b) rfl
  refine Broker.connect_of_places hplaces ha ?_
  simp [Broker.reset, he]

/-- An idle broker gives nothing, also once a session was closed. -/
theorem silent_of_idle {b : Broker Party} (hi : Carrier.next? b = none) (p : Party) {q : Party}
    {i : Inbound} {b' : Broker Party} : ¬ (b.reset p).Gives q i b' := by
  have hsettled : ∀ {s}, (b.reset p).session? q = some s →
      s.backlog = [] ∧ b.outages ≤ s.outagesSeen := by
    intro s hs
    refine Broker.next?_eq_none (Option.map_eq_none_iff.mp hi) (k := q) ?_
    by_cases hq : q = p
    · rw [hq, Broker.session?_reset_self] at hs
      cases hs
    · rw [← hs, Broker.session?_reset_of_ne hq]
  intro hg
  cases i with
  | payload d =>
      obtain ⟨s, rest, hs, hb, -⟩ := hg.payload
      rw [(hsettled hs).1] at hb
      cases hb
  | lost =>
      obtain ⟨s, hs, ho, -⟩ := hg.lost
      exact absurd ho (Nat.not_lt.mpr (hsettled hs).2)

/-- The new session finds an empty registry and nothing under way. -/
theorem Agreed.redialed_severed (h : x.Agreed name start) (hi : Idle name x)
    (he : x.adapter.epoch?.isSome = true) (m : Metrics) :
    ((x.severed name).redialed name m).Agreed name x.scene.journal.size := by
  have ha := h.sound.available_of_up hi he
  obtain ⟨s, hs⟩ := Option.isSome_iff_exists.mp ((h.sound.known he).2 ha)
  have hbacklogs : ∀ {p t}, x.bus.session? p = some t → t.backlog = [] :=
    fun ht => (Broker.next?_eq_none (Option.map_eq_none_iff.mp hi.bus) ht).1
  have hok := redial_ok h.sound.line hs ha
  obtain ⟨l, hnew⟩ := Broker.session?_connect_of_ok hok
  have hopen : ∀ p, ((((x.bus.reset (.generator name)).connect (.generator name)).2).session?
      p).isSome = (x.bus.session? p).isSome := by
    intro p
    by_cases hp : p = .generator name
    · rw [hp, hnew, hs]
      rfl
    · rw [Sound.session?_redial hp]
  have hbus := h.sound.withBus m ((h.sound.line.reset_of_idle hbacklogs).connect hok) hopen
    (Broker.available_connect (.generator name) (x.bus.reset (.generator name)))
  have htwice : (x.severed name).bus.reset (.generator name) = x.bus.reset (.generator name) :=
    Broker.reset_reset (.generator name) x.bus
  have hsound : ((x.severed name).redialed name m).Sound name := by
    rw [redialed, htwice]
    exact
      { hbus with
        generatorDials := .connected _ _
        unwired := fun hf => ⟨rfl, (hbus.unwired hf).2⟩ }
  have hsince : ((x.severed name).redialed name m).since x.scene.journal.size = [] :=
    List.drop_eq_nil_of_le (Nat.le_refl x.scene.journal.toList.length)
  have hway : ((x.severed name).redialed name m).underWay name = [] := by
    rw [redialed, htwice, underWay, Broker.backlog_of_session? hnew]
    exact (underWay_of_idle h.sound hi).2
  refine ⟨hsound, Nat.le_refl _, fun _ _ i hc => ?_, fun _ _ i _ => ?_⟩
  · rw [hsince] at hc
    exact absurd hc (Agreed.not_renews_nil i)
  · rw [impending, hway]
    rfl

/-- The generator alone loses its session in a settled state with the feed up. -/
theorem Agreed.severed (h : x.Agreed name start) (hi : Idle name x)
    (he : x.adapter.epoch?.isSome = true) :
    (x.severed name).Cut name x.scene.journal.size := by
  have ha := h.sound.available_of_up hi he
  obtain ⟨hopen, hgen⟩ := h.sound.known he
  obtain ⟨s, hs⟩ := Option.isSome_iff_exists.mp (hgen ha)
  have hdone : x.generator.supervisors = [] := h.sound.generatorDials.done (hgen ha)
  exact
    { closed := Broker.session?_reset_self _ x.bus
      silent := silent_of_idle hi.bus (.generator name)
      adapterSupervisors := h.sound.adapterDials.done hopen
      rounds := hi.rounds
      generatorSupervisors := ⟨x.generator.config.recoveryPause, by
        simp [Duo.severed, Generator.transportError, Generator.startReconnect, hdone]⟩
      connects := by
        show (((x.bus.reset _).reset _).connect _).1 = .ok ()
        rw [Broker.reset_reset]
        exact redial_ok h.sound.line hs ha
      resumes := h.redialed_severed hi he }

end Loss

namespace Cut

/-- There is work to do: the generator's supervisor can go on. -/
theorem not_idle (h : x.Cut name start) : ¬ Idle name x := by
  intro hi
  obtain ⟨pause, hv⟩ := h.generatorSupervisors
  have hstep := hi.generator
  rw [Generator.step?, hv] at hstep
  cases hstep

/-- Nothing changes that the two parties see of each other. -/
theorem frame (h : x.Cut name start) {y : Duo} (hb : y.bus = x.bus)
    (hv : y.adapter.supervisors = x.adapter.supervisors)
    (hr : y.adapter.rounds = x.adapter.rounds) (hn : y.generator.newest = x.generator.newest)
    (hg : y.generator.supervisors = x.generator.supervisors)
    (hy : ∀ m, (y.redialed name m).Agreed name start) : y.Cut name start where
  closed := by
    rw [hb]
    exact h.closed
  silent := by
    rw [hb]
    exact h.silent
  adapterSupervisors := hv.trans h.adapterSupervisors
  rounds := hr.trans h.rounds
  generatorSupervisors := by
    rw [hg, hn]
    exact h.generatorSupervisors
  connects := by
    rw [hb]
    exact h.connects
  resumes := hy

theorem wired (h : x.Cut name start) (m : Metrics) : x.generator.wired = true := by
  obtain ⟨l, hnew⟩ := Broker.session?_connect_of_ok h.connects
  exact (h.resumes m).sound.wired_of_session? hnew

section Pieces

/-- What the generator wants to send has no session to go through. -/
theorem sends (h : x.Cut name start) {g : Generator} {ps : List Payload} {m : Metrics}
    (hw : g.wired = x.generator.wired) (hr : g.released = x.generator.released)
    (hn : g.newest = x.generator.newest) (hv : g.supervisors = x.generator.supervisors)
    (hg : ∀ i, g.gate.id? i = x.generator.gate.id? i) :
    (x.emit (g, { x.scene with
      bus := x.bus.sendAll (.generator name) .updates ps, metrics := m })).Cut name start := by
  rw [Broker.sendAll_of_closed h.closed]
  refine h.frame rfl rfl rfl hn hv (fun m' => ?_)
  have hafter := h.resumes m'
  show ((x.redialed name m').emit ({ g with supervisors := [] }, { (x.redialed name m').scene with
    bus := (x.redialed name m').bus.sendAll (.generator name) .updates []
    metrics := m' })).Agreed name start
  have hheld := hr.trans hafter.sound.generatorHeld
  exact hafter.sends (hafter.sound.sends (hw.trans (h.wired m')) hheld hn rfl rfl) hg rfl

theorem heartbeat (h : x.Cut name start) (hs : List Nat) :
    (x.emit (Generator.publishHeartbeat (Broker.link (.generator name) 0)
      { x.generator with heartbeats := hs } x.scene)).Cut name start := by
  obtain ⟨o, m, he⟩ := Generator.publishHeartbeat_effect (k := Party.generator name) (l := 0)
    { x.generator with heartbeats := hs } x.scene
  rw [he]
  exact h.sends rfl rfl rfl rfl (fun _ => rfl)

theorem trade (h : x.Cut name start) (ts : List Nat) :
    (x.emit (Generator.tick (Broker.link (.generator name) 0)
      { x.generator with ticks := ts } x.scene).2).Cut name start := by
  have hheld : x.generator.released = false :=
    (h.resumes x.scene.metrics).sound.generatorHeld
  obtain ⟨o, m, he⟩ := Generator.tick_effect (k := Party.generator name) (l := 0)
    (g := { x.generator with ticks := ts }) (h.wired x.scene.metrics) hheld x.scene
  rw [he]
  exact h.sends rfl rfl rfl rfl (fun i => Gate.id?_pass x.generator.gate _ i _)

theorem looks (h : x.Cut name start) {r : Adapter String × Scene (Broker Party) String}
    {ws done : List Watchdog} (hr : Adapter.watchFrom x.adapter x.scene done ws = some r) :
    (x.act r).Cut name start := by
  rcases Adapter.watchFrom_effect hr with ⟨ws, rfl⟩ | ⟨ws, rfl⟩
  · refine h.frame rfl rfl rfl rfl rfl (fun m => ?_)
    have hafter := h.resumes m
    exact { hafter with sound := { hafter.sound with } }
  · obtain ⟨subs, m, notes, -, hd⟩ := Adapter.degrade_effect .producer x.adapter x.scene
    rw [hd]
    refine h.frame rfl rfl rfl rfl rfl (fun m' => ?_)
    have hafter := h.resumes m'
    refine hafter.ofDrops ?_ ⟨not_fed_of_epoch? rfl, _, Array.toList_append⟩
    exact hafter.sound.degraded rfl hafter.sound.adapterHeld rfl rfl hafter.sound.waiting

/-- The generator's supervisor connects at once. -/
theorem dials (h : x.Cut name start) {r : Generator × Scene (Broker Party) String}
    {vs done : List Supervisor} (hvs : x.generator.supervisors = done ++ vs)
    (hr : Generator.superviseFrom (Broker.link (.generator name) 0) x.generator x.scene done vs =
      some r) : (x.emit r).Agreed name start := by
  obtain ⟨pause, hv⟩ := h.generatorSupervisors
  have hheld : x.generator.released = false :=
    (h.resumes x.scene.metrics).sound.generatorHeld
  obtain ⟨m, ⟨-, rfl⟩ | ⟨due, f, hf, -⟩⟩ :=
    Generator.superviseFrom_single hheld hv rfl (Or.inl rfl) hvs hr
  · exact h.resumes m
  · rw [h.connects] at hf
    cases hf

/-- Until the generator has connected again the adapter may at most degrade its feed; the
generator's registry is followed from then on. -/
theorem piece (h : x.Cut name start) {y : Duo} (hp : Piece name x y) :
    y.Cut name start ∨ y.Agreed name start := by
  cases hp with
  | adapterDials place r hr =>
      rw [h.adapterSupervisors, List.take_nil, List.drop_nil] at hr
      cases hr
  | adapterLooks place r hr => exact Or.inl (h.looks hr)
  | generatorDials place r hr =>
      exact Or.inr (h.dials (List.take_append_drop place _).symm hr)
  | heartbeat hs hp => exact Or.inl (h.heartbeat hs)
  | trade ts hp => exact Or.inl (h.trade ts)
  | round hr => exact absurd h.rounds hr
  | adapterHears p b hn => exact absurd hn h.silent
  | adapterLoses b hn => exact absurd hn h.silent
  | generatorHears p b hn => exact absurd hn h.silent
  | generatorLoses b hn => exact absurd hn h.silent

end Pieces

end Cut

/-- After the loss the generator connects again, and its registry is followed from then on. -/
theorem cut_kept (name : String) (start : Nat) :
    Kept name (fun x => x.Cut name start ∨ x.Agreed name start) where
  piece x y h hp hl := h.elim (fun h => h.piece hp) (fun h => Or.inr (h.piece hp hl))
  time x t h := by
    refine h.imp (fun h => h.frame rfl rfl rfl rfl rfl (fun m => ?_))
      ((agreed_kept name start).time x t)
    exact (agreed_kept name start).time _ t (h.resumes m)
  move x m h hi hl := Or.inr ((h.resolve_left (fun h => h.not_idle hi)).move m hi hl)
  startAdapter x h hi hz := Or.inr ((h.resolve_left (fun h => h.not_idle hi)).startAdapter hz)
  startGenerator x h hi hf :=
    Or.inr ((h.resolve_left (fun h => h.not_idle hi)).startGenerator hf)

/-- An idle duo with the feed up agrees just when a new run was heard since the start, or every item
of the adapter's registry was registered since. -/
theorem Agreed.agree_iff (h : x.Agreed name start) (hi : Idle name x)
    (he : x.adapter.epoch?.isSome = true) :
    (∀ i, x.generator.gate.id? i = x.adapter.book.id? i) ↔
      (∃ t e, .heard t e true ∈ x.since start) ∨
        ∀ i, (x.adapter.book.subscriptions.get? i).isSome = true →
          ∃ n, .subscribed i n ∈ x.since start := by
  constructor
  · intro hagree
    by_cases hnew : ∃ t e, .heard t e true ∈ x.since start
    · exact Or.inl hnew
    · refine Or.inr (fun i hreg => ?_)
      by_cases hc : Renews i (x.since start)
      · exact hc.resolve_left hnew
      · have hid := hagree i
        rw [h.id?_of_not_covered hi he hc, Book.id?] at hid
        obtain ⟨sub, hsub⟩ := Option.isSome_iff_exists.mp hreg
        rw [hsub] at hid
        cases hid
  · rintro (hnew | hall) i
    · exact h.id?_of_covered hi he (Or.inl hnew)
    · by_cases hc : Renews i (x.since start)
      · exact h.id?_of_covered hi he hc
      · have hnone : x.adapter.book.subscriptions.get? i = none :=
          Option.not_isSome_iff_eq_none.mp (fun hreg => hc (Or.inr (hall i hreg)))
        rw [h.id?_of_not_covered hi he hc, Book.id?, hnone]
        rfl

end Duo

namespace Deployment

variable {name : String} {d₀ d d' : Deployment (Broker Party)} {a a' : Adapter String}
  {g g' : Generator}

/-- After the loss the registries are followed from the size that the journal had then. -/
theorem agreed_since_loss (h₀ : d₀.Fresh name) (hr : Run name d₀ d) (h : d.Feeds name a g)
    (hr' : Run name (d.sever name) d') (h' : d'.Feeds name a' g') :
    ∃ y : Duo, y.Agreed name d.scene.journal.size ∧ y.Idle name ∧
      y.adapter.epoch?.isSome = true ∧ y.adapter = a' ∧ y.generator = g' ∧
        d' = y.deploy name := by
  obtain ⟨x, hx, hi, he, rfl, rfl, rfl⟩ := agreed_of_feeds h₀ hr h
  have hstart : Duo.Holds name
      (fun y => y.Cut name x.scene.journal.size ∨ y.Agreed name x.scene.journal.size)
      ((x.deploy name).sever name) :=
    ⟨x.severed name, Duo.severed_deploy hx.sound,
      hx.sound.line.joins.of_roster_eq (Broker.roster_reset _ x.bus),
      fun _ => Or.inl (hx.severed hi he)⟩
  obtain ⟨y, hy, hi', he', hya, hyg, hyd⟩ :=
    (Duo.cut_kept name x.scene.journal.size).exists_of_feeds hstart hr' h'
  exact ⟨y, hy.resolve_left (fun hc => hc.not_idle hi'), hi', he', hya, hyg, hyd⟩

/-- The generator alone loses its session in a settled state with the feed up, and the run goes
on.  In every later settled state with the feed up the registries agree just when the adapter has
heard a new producer run since the loss, or has registered since then every item of its registry. -/
theorem registries_agree_after_loss_iff (h₀ : d₀.Fresh name) (hr : Run name d₀ d)
    (h : d.Feeds name a g) (hr' : Run name (d.sever name) d') (h' : d'.Feeds name a' g') :
    (∀ i, (g'.gate.tenure? i).map (·.id) = (a'.book.subscriptions.get? i).map (·.id)) ↔
      (∃ t e, .heard t e true ∈ d'.scene.journal.toList.drop d.scene.journal.size) ∨
        ∀ i, (a'.book.subscriptions.get? i).isSome = true →
          ∃ n, .subscribed i n ∈ d'.scene.journal.toList.drop d.scene.journal.size := by
  obtain ⟨y, hy, hi', he', rfl, rfl, rfl⟩ := agreed_since_loss h₀ hr h hr' h'
  exact hy.agree_iff hi' he'

section Demonstration

/-- The demonstration after the generator has lost its session and found a new one. -/
def demoSevered : Deployment (Broker Party) := (demoFed.sever "g").settle

/-- The same after the time of a heartbeat. -/
def demoHeard : Deployment (Broker Party) := (demoSevered.move "g" (.sleep 60)).settle

/-- The demonstration's item. -/
def demoItem : Item := ⟨⟨4, by decide⟩⟩

/-- The feed is up and a message was heard since the loss, but the generator does not know the
adapter's subscription. -/
theorem demoHeard_run :
    Run "g" (demoFed.sever "g") demoHeard ∧ ∃ a g, demoHeard.Feeds "g" a g ∧
      g.gate.tenure? demoItem = none ∧ (a.book.subscriptions.get? demoItem).isSome = true ∧
        ∃ t e isNew, .heard t e isNew ∈
          demoHeard.scene.journal.toList.drop demoFed.scene.journal.size := by
  have h : (demoSevered.step?.isNone && demoHeard.feeds "g" &&
      (demoHeard.generator? "g").map (fun g => (g.gate.tenure? demoItem).isNone) == some true &&
      demoHeard.adapter.map (fun a => (a.book.subscriptions.get? demoItem).isSome) == some true &&
      (demoHeard.scene.journal.toList.drop demoFed.scene.journal.size).any Note.isHeard) =
        true := by
    decide +kernel
  simp only [Bool.and_eq_true, beq_iff_eq, List.any_eq_true] at h
  obtain ⟨⟨⟨⟨hs, hf⟩, hg⟩, ha⟩, n, hn, hheard⟩ := h
  obtain ⟨a, g, hf⟩ := exists_of_feeds hf
  rw [hf.generator] at hg
  rw [hf.adapter] at ha
  have hsevered : Run "g" (demoFed.sever "g") demoSevered := .settle (.refl _)
  refine ⟨.settle (.move (.sleep 60) hsevered (by simpa using hs)), a, g, hf,
    by simpa using hg, by simpa using ha, ?_⟩
  cases n with
  | heard t e isNew => exact ⟨t, e, isNew, hn⟩
  | subscribed i n => cases hheard
  | called c => cases hheard

/-- The demonstration, in which neither happens. -/
theorem registries_agree_after_loss_iff_demo :
    ∃ a g, demoHeard.Feeds "g" a g ∧
      ((∀ i, (g.gate.tenure? i).map (·.id) = (a.book.subscriptions.get? i).map (·.id)) ↔
        (∃ t e, .heard t e true ∈
            demoHeard.scene.journal.toList.drop demoFed.scene.journal.size) ∨
          ∀ i, (a.book.subscriptions.get? i).isSome = true →
            ∃ n, .subscribed i n ∈
              demoHeard.scene.journal.toList.drop demoFed.scene.journal.size) := by
  obtain ⟨a₀, g₀, h₀, -⟩ := demoFed_feeds
  obtain ⟨hr, a, g, h, -⟩ := demoHeard_run
  exact ⟨a, g, h, registries_agree_after_loss_iff demo_fresh demoFed_run h₀ hr h⟩

/-- A heartbeat heard after the loss does not make the registries agree, though they agreed before
it and nothing happens after it but that time passes. -/
theorem heartbeat_heals_nothing :
    ¬ ∀ (span : Nat) (d d' : Deployment (Broker Party)) (a a' : Adapter String)
        (g g' : Generator), Run "g" demo d → d.Feeds "g" a g →
          (∀ i, (g.gate.tenure? i).map (·.id) = (a.book.subscriptions.get? i).map (·.id)) →
          d' = ((d.sever "g").settle.move "g" (.sleep span)).settle → d'.Feeds "g" a' g' →
          (∃ t e isNew, .heard t e isNew ∈
            d'.scene.journal.toList.drop d.scene.journal.size) →
            ∀ i, (g'.gate.tenure? i).map (·.id) =
              (a'.book.subscriptions.get? i).map (·.id) := by
  intro heach
  obtain ⟨a₀, g₀, h₀, -⟩ := demoFed_feeds
  obtain ⟨-, a, g, h, hg, ha, hheard⟩ := demoHeard_run
  obtain ⟨x, hx, hidle, he, rfl, rfl, -⟩ := agreed_of_feeds demo_fresh demoFed_run h₀
  have hagree : ∀ i, x.generator.gate.id? i = x.adapter.book.id? i :=
    fun i => hx.id?_of_covered hidle he (Or.inl (hx.sound.announced he))
  have hi := heach 60 demoFed demoHeard _ a _ g demoFed_run h₀ hagree rfl h hheard demoItem
  rw [hg] at hi
  obtain ⟨sub, hsub⟩ := Option.isSome_iff_exists.mp ha
  rw [hsub] at hi
  cases hi

end Demonstration

end Deployment

end QuoteBridge
