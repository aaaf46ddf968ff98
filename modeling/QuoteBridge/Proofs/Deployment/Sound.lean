import QuoteBridge.Proofs.Deployment.Sessions

/-!
# Sound deployments

What holds of the parties of a deployment in every state of a run, between the steps as well.

**Supervisors.**  A party without a session has at most one supervisor, the newest; a party with a
session has none.

**Results.**
* `Duo.Sound.piece`, `Duo.Sound.move`: work and moves keep a duo sound.
* `Duo.Sound.ofFresh`: a fresh deployment is sound.
-/

namespace QuoteBridge

/-- A party's supervisors: none, or only the newest one, and none while a session is open. -/
structure Dials (newest : Nat) (vs : List Supervisor) (session : Option Session) : Prop where
  alone : vs = [] ∨ ∃ v, vs = [v] ∧ v.generation = newest ∧ v.IsWaiting
  done : session.isSome = true → vs = []

theorem Dials.congr {newest : Nat} {vs : List Supervisor} {s s' : Option Session}
    (h : Dials newest vs s) (hs : s'.isSome = s.isSome) : Dials newest vs s' :=
  ⟨h.alone, fun hs' => h.done (hs ▸ hs')⟩

/-- A supervisor that can go on is the only one, and its party has no session. -/
theorem Dials.alone_of_append {newest : Nat} {all done vs : List Supervisor} {s : Option Session}
    (h : Dials newest all s) (hall : all = done ++ vs) (hvs : vs ≠ []) :
    (∃ v, all = [v] ∧ v.generation = newest ∧ v.IsWaiting) ∧ s = none := by
  rcases h.alone with hnil | hone
  · exact absurd (List.append_eq_nil_iff.mp (hall.symm.trans hnil)).2 hvs
  · refine ⟨hone, Option.not_isSome_iff_eq_none.mp (fun hs => ?_)⟩
    obtain ⟨v, hv, -⟩ := hone
    rw [h.done hs] at hv
    cases hv

/-- A party that has lost its session starts the newest supervisor. -/
theorem Dials.lost (newest pause : Nat) :
    Dials (newest + 1) [.create (newest + 1) pause] none :=
  ⟨Or.inr ⟨_, rfl, rfl, Or.inl rfl⟩, fun h => by cases h⟩

/-- A party whose supervisor has connected has none. -/
theorem Dials.connected (newest : Nat) (s : Option Session) : Dials newest [] s :=
  ⟨Or.inl rfl, fun _ => rfl⟩

/-- A party whose supervisor rests has no session. -/
theorem Dials.resting {newest : Nat} {v : Supervisor} (hg : v.generation = newest) (due : Nat)
    {s : Option Session} (hs : s = none) :
    Dials newest [{ v with phase := .resting due }] s :=
  ⟨Or.inr ⟨_, rfl, hg, Or.inr ⟨due, rfl⟩⟩, fun h => by rw [hs] at h; cases h⟩

namespace Duo

/-- What holds of an adapter, a generator and the broker between them in every state of a run. -/
structure Sound (name : String) (x : Duo) : Prop where
  line : x.bus.Sound name
  adapterHeld : x.adapter.released = false
  generatorHeld : x.generator.released = false
  adapterDials : Dials x.adapter.newest x.adapter.supervisors (x.bus.session? .adapter)
  generatorDials :
    Dials x.generator.newest x.generator.supervisors (x.bus.session? (.generator name))
  unstarted : x.adapter.newest = 0 →
    x.adapter.supervisors = [] ∧ x.bus.session? .adapter = none
  unwired : x.generator.wired = false →
    x.generator.supervisors = [] ∧ x.generator.heartbeats = [] ∧ x.generator.ticks = [] ∧
      x.bus.session? (.generator name) = none
  known : x.adapter.epoch?.isSome = true →
    (x.bus.session? .adapter).isSome = true ∧
      (x.bus.available = true → (x.bus.session? (.generator name)).isSome = true)
  waiting : x.adapter.book.pending ≠ [] → x.adapter.rounds ≠ 0
  announced : x.adapter.epoch?.isSome = true →
    ∃ t e, .heard t e true ∈ x.scene.journal.toList

/-- The feed is up, through an available broker. -/
def Fed (x : Duo) : Prop := x.adapter.epoch?.isSome = true ∧ x.bus.available = true

/-- A step to a duo whose feed is not up. -/
structure Drops (x y : Duo) : Prop where
  down : ¬ y.Fed
  noted : ∃ ns, y.scene.journal.toList = x.scene.journal.toList ++ ns

theorem Drops.silent {x y : Duo} (hd : ¬ y.Fed)
    (hj : y.scene.journal.toList = x.scene.journal.toList) : Drops x y :=
  ⟨hd, [], by rw [hj, List.append_nil]⟩

theorem not_fed_of_epoch? {x : Duo} (h : x.adapter.epoch? = none) : ¬ x.Fed := by
  rintro ⟨he, -⟩
  rw [h] at he
  cases he

theorem not_fed_of_available {x : Duo} (h : x.bus.available = false) : ¬ x.Fed := by
  rintro ⟨-, ha⟩
  rw [h] at ha
  cases ha

namespace Sound

variable {name : String} {x : Duo}

section Facts

/-- A supervisor that goes on is the only one, and its party has no session. -/
theorem supervisor_of_adapterDials (h : x.Sound name)
    {r : Adapter String × Scene (Broker Party) String}
    {vs done : List Supervisor} (hvs : x.adapter.supervisors = done ++ vs)
    (hr : Adapter.superviseFrom (Broker.link .adapter 0) x.adapter x.scene done vs = some r) :
    (∃ v, x.adapter.supervisors = [v] ∧ v.generation = x.adapter.newest ∧ v.IsWaiting) ∧
      x.bus.session? .adapter = none :=
  h.adapterDials.alone_of_append hvs (by rintro rfl; cases hr)

theorem supervisor_of_generatorDials (h : x.Sound name)
    {r : Generator × Scene (Broker Party) String}
    {vs done : List Supervisor} (hvs : x.generator.supervisors = done ++ vs)
    (hr : Generator.superviseFrom (Broker.link (.generator name) 0) x.generator x.scene done vs =
      some r) :
    (∃ v, x.generator.supervisors = [v] ∧ v.generation = x.generator.newest ∧ v.IsWaiting) ∧
      x.bus.session? (.generator name) = none :=
  h.generatorDials.alone_of_append hvs (by rintro rfl; cases hr)

/-- Without a session no producer run is known. -/
theorem epoch?_eq_none (h : x.Sound name) (hs : x.bus.session? .adapter = none) :
    x.adapter.epoch? = none := by
  refine Option.not_isSome_iff_eq_none.mp (fun he => ?_)
  have hopen := (h.known he).1
  rw [hs] at hopen
  cases hopen

theorem wired_of_session? (h : x.Sound name) {s : Session}
    (hs : x.bus.session? (.generator name) = some s) : x.generator.wired = true := by
  refine Bool.not_eq_false _ |>.mp (fun hw => ?_)
  have hn := (h.unwired hw).2.2.2
  rw [hs] at hn
  cases hn

theorem wired_of_heartbeat (h : x.Sound name) {now interval : Nat} {hs : List Nat}
    (hp : Generator.postpone? now interval x.generator.heartbeats = some hs) :
    x.generator.wired = true := by
  refine Bool.not_eq_false _ |>.mp (fun hw => ?_)
  rw [(h.unwired hw).2.1] at hp
  cases hp

theorem wired_of_trade (h : x.Sound name) {now interval : Nat} {ts : List Nat}
    (hp : Generator.postpone? now interval x.generator.ticks = some ts) :
    x.generator.wired = true := by
  refine Bool.not_eq_false _ |>.mp (fun hw => ?_)
  rw [(h.unwired hw).2.2.1] at hp
  cases hp

end Facts

section Pieces

/-- The broker may be another one, if the same sessions are open there. -/
theorem withBus (h : x.Sound name) {b : Broker Party} (m : Metrics) (hb : b.Sound name)
    (hopen : ∀ p, (b.session? p).isSome = (x.bus.session? p).isSome)
    (ha : b.available = x.bus.available) :
    ({ x with scene := { x.scene with bus := b, metrics := m } } : Duo).Sound name := by
  have hclosed : ∀ {p}, x.bus.session? p = none → b.session? p = none := by
    intro p hp
    rw [← Option.isNone_iff_eq_none, ← Option.not_isSome, hopen, hp]
    rfl
  exact
    { h with
      line := hb
      adapterDials := h.adapterDials.congr (hopen _)
      generatorDials := h.generatorDials.congr (hopen _)
      unstarted := fun hz => ⟨(h.unstarted hz).1, hclosed (h.unstarted hz).2⟩
      unwired := fun hf =>
        let ⟨h₁, h₂, h₃, h₄⟩ := h.unwired hf
        ⟨h₁, h₂, h₃, hclosed h₄⟩
      known := fun he =>
        ⟨(hopen .adapter).trans (h.known he).1, fun hav =>
          (hopen (.generator name)).trans ((h.known he).2 (ha.symm.trans hav))⟩ }

/-- The other party's session is not touched by an attempt to connect. -/
theorem session?_redial {p q : Party} (hq : q ≠ p) (b : Broker Party) :
    ((b.reset p).connect p).2.session? q = b.session? q := by
  rw [Broker.session?_connect_of_ne hq, Broker.session?_reset_of_ne hq]

theorem dialAdapter (h : x.Sound name) {r : Adapter String × Scene (Broker Party) String}
    {vs done : List Supervisor} (hvs : x.adapter.supervisors = done ++ vs)
    (hr : Adapter.superviseFrom (Broker.link .adapter 0) x.adapter x.scene done vs = some r) :
    (x.act r).Sound name := by
  obtain ⟨⟨v, hv, hg, hw⟩, hnone⟩ := h.supervisor_of_adapterDials hvs hr
  have hepoch : x.adapter.epoch?.isSome ≠ true := by simp [h.epoch?_eq_none hnone]
  have hne : Party.generator name ≠ .adapter := by simp
  have hstarted : x.adapter.newest ≠ 0 := by
    intro hz
    rw [(h.unstarted hz).1] at hv
    cases hv
  obtain ⟨m, ⟨hc, rfl⟩ | ⟨due, f, -, rfl⟩⟩ :=
    Adapter.superviseFrom_single h.adapterHeld hv hg hw hvs hr
  · have hother := session?_redial hne x.bus
    exact
      { h with
        line := (h.line.reset hnone).connect hc
        adapterDials := .connected _ _
        generatorDials := h.generatorDials.congr (congrArg Option.isSome hother)
        unstarted := fun hz => absurd hz hstarted
        unwired := fun hf =>
          let ⟨h₁, h₂, h₃, h₄⟩ := h.unwired hf
          ⟨h₁, h₂, h₃, hother.trans h₄⟩
        known := fun he => absurd he hepoch
        announced := fun he => absurd he hepoch }
  · have hsame := Broker.Sound.session?_reset hnone
    have hreset := h.withBus m (h.line.reset hnone) (fun q => congrArg Option.isSome (hsame q)) rfl
    exact
      { hreset with
        adapterDials := .resting hg due ((hsame _).trans hnone)
        unstarted := fun hz => absurd hz hstarted
        known := fun he => absurd he hepoch
        announced := fun he => absurd he hepoch }

theorem dialGenerator (h : x.Sound name) {r : Generator × Scene (Broker Party) String}
    {vs done : List Supervisor} (hvs : x.generator.supervisors = done ++ vs)
    (hr : Generator.superviseFrom (Broker.link (.generator name) 0) x.generator x.scene done vs =
      some r) : (x.emit r).Sound name := by
  obtain ⟨⟨v, hv, hg, hw⟩, hnone⟩ := h.supervisor_of_generatorDials hvs hr
  have hwired : x.generator.wired ≠ false := by
    intro hf
    rw [(h.unwired hf).1] at hv
    cases hv
  have hne : Party.adapter ≠ .generator name := by simp
  obtain ⟨m, ⟨hc, rfl⟩ | ⟨due, f, -, rfl⟩⟩ :=
    Generator.superviseFrom_single h.generatorHeld hv hg hw hvs hr
  · have hother := session?_redial hne x.bus
    obtain ⟨l, hnew⟩ := Broker.session?_connect_of_ok hc
    exact
      { h with
        line := (h.line.reset hnone).connect hc
        adapterDials := h.adapterDials.congr (congrArg Option.isSome hother)
        generatorDials := .connected _ _
        unstarted := fun hz => ⟨(h.unstarted hz).1, hother.trans (h.unstarted hz).2⟩
        unwired := fun hf => absurd hf hwired
        known := fun he =>
          ⟨(congrArg Option.isSome hother).trans (h.known he).1,
            fun _ => congrArg Option.isSome hnew⟩ }
  · have hsame := Broker.Sound.session?_reset hnone
    have hreset := h.withBus m (h.line.reset hnone) (fun q => congrArg Option.isSome (hsame q)) rfl
    exact
      { hreset with
        generatorDials := .resting hg due ((hsame _).trans hnone)
        unwired := fun hf => absurd hf hwired }

/-- A change of the known producer run that forgets it. -/
theorem degraded (h : x.Sound name) {a : Adapter String} {m : Metrics}
    {notes : Array (Note String)} (he : a.epoch? = none) (hr : a.released = false)
    (hn : a.newest = x.adapter.newest) (hv : a.supervisors = x.adapter.supervisors)
    (hp : a.book.pending ≠ [] → a.rounds ≠ 0) :
    (x.act (a, { x.scene with metrics := m, journal := x.scene.journal ++ notes })).Sound
      name :=
  { h with
    adapterHeld := hr
    adapterDials := by
      show Dials a.newest a.supervisors (x.bus.session? .adapter)
      rw [hn, hv]
      exact h.adapterDials
    unstarted := fun hz => ⟨hv.trans (h.unstarted (hn ▸ hz)).1, (h.unstarted (hn ▸ hz)).2⟩
    known := fun hs => by
      have hs : a.epoch?.isSome = true := hs
      rw [he] at hs
      cases hs
    waiting := hp
    announced := fun hs => by
      have hs : a.epoch?.isSome = true := hs
      rw [he] at hs
      cases hs }

theorem lookAdapter (h : x.Sound name) {r : Adapter String × Scene (Broker Party) String}
    {ws done : List Watchdog} (hr : Adapter.watchFrom x.adapter x.scene done ws = some r) :
    (x.act r).Sound name := by
  rcases Adapter.watchFrom_effect hr with ⟨ws, rfl⟩ | ⟨ws, rfl⟩
  · exact { h with }
  · obtain ⟨subs, m, notes, -, hd⟩ := Adapter.degrade_effect .producer x.adapter x.scene
    rw [hd]
    exact h.degraded rfl h.adapterHeld rfl rfl h.waiting

/-- The generator changes something of its own and sends. -/
theorem sends (h : x.Sound name) {g : Generator} {ps : List Payload} {m : Metrics}
    (hgw : g.wired = true) (hr : g.released = false)
    (hn : g.newest = x.generator.newest) (hv : g.supervisors = x.generator.supervisors)
    (hl : (x.bus.sendAll (.generator name) .updates ps).lagged = x.bus.lagged) :
    (x.emit (g, { x.scene with
      bus := x.bus.sendAll (.generator name) .updates ps, metrics := m })).Sound name := by
  have hon : Broker.IsOn name (.generator name) := .generator
  have hsent := h.withBus m (h.line.sendAll hon hl) (h.line.isSome_session?_sendAll hon hl)
    (Broker.available_sendAll ps x.bus)
  exact
    { hsent with
      generatorHeld := hr
      generatorDials := by
        show Dials g.newest g.supervisors _
        rw [hn, hv]
        exact hsent.generatorDials
      unwired := fun hf => by
        have hf : g.wired = false := hf
        rw [hgw] at hf
        cases hf }

theorem heartbeat (h : x.Sound name) {hs : List Nat}
    (hp : Generator.postpone? x.scene.now x.generator.config.heartbeatInterval
      x.generator.heartbeats = some hs) {y : Duo}
    (hy : y = x.emit (Generator.publishHeartbeat (Broker.link (.generator name) 0)
      { x.generator with heartbeats := hs } x.scene))
    (hl : y.bus.lagged = x.bus.lagged) : y.Sound name := by
  obtain ⟨o, m, he⟩ := Generator.publishHeartbeat_effect (k := Party.generator name) (l := 0)
    { x.generator with heartbeats := hs } x.scene
  rw [he] at hy
  subst hy
  have hw := h.wired_of_heartbeat hp
  exact h.sends hw h.generatorHeld rfl rfl hl

theorem trade (h : x.Sound name) {g : Generator} (hw : x.generator.wired = true)
    (hg : g.wired = x.generator.wired) (hr : g.released = x.generator.released)
    (hn : g.newest = x.generator.newest) (hv : g.supervisors = x.generator.supervisors) {y : Duo}
    (hy : y = x.emit (Generator.tick (Broker.link (.generator name) 0) g x.scene).2)
    (hl : y.bus.lagged = x.bus.lagged) : y.Sound name := by
  rw [hw] at hg
  rw [h.generatorHeld] at hr
  obtain ⟨o, m, he⟩ := Generator.tick_effect (k := Party.generator name) (l := 0) hg hr x.scene
  rw [he] at hy
  subst hy
  exact h.sends hg hr hn hv hl

theorem round (h : x.Sound name) {y : Duo}
    (hy : y = x.act (Adapter.dispatchRound (Broker.link .adapter 0) x.adapter x.scene))
    (hl : y.bus.lagged = x.bus.lagged) : y.Sound name := by
  obtain ⟨o, m, he⟩ := Adapter.dispatchRound_effect (k := Party.adapter) (l := 0)
    h.adapterHeld x.scene
  rw [he] at hy
  subst hy
  have hon : Broker.IsOn name .adapter := .adapter
  have hsent := h.withBus m (h.line.sendAll hon hl) (h.line.isSome_session?_sendAll hon hl)
    (Broker.available_sendAll _ x.bus)
  exact { hsent with waiting := fun hp => absurd rfl hp }

/-- A session that is handed something stays open. -/
theorem isSome_session?_pop {p : Party} {s : Session} {b : Broker Party}
    (hs : b.session? p = some s) (t : Session) (q : Party) :
    ((b.setSession p (some t)).session? q).isSome = (b.session? q).isSome := by
  by_cases hq : q = p
  · rw [hq, Broker.session?_setSession_self hs, hs]
    rfl
  · rw [Broker.session?_setSession_of_ne hq]

/-- The scene once a session was handed its oldest payload. -/
theorem pop (h : x.Sound name) {p : Party} {s : Session} (hs : x.bus.session? p = some s)
    {d : Payload} {rest : List Payload} (hb : s.backlog = d :: rest) :
    ({ x with scene := x.taken (x.bus.setSession p (some { s with backlog := rest })) } :
      Duo).Sound name :=
  h.withBus x.scene.metrics (h.line.pop hs hb)
    (isSome_session?_pop hs { s with backlog := rest }) rfl

/-- A backlog comes from an available broker. -/
theorem available_of_backlog (h : x.Sound name) {p : Party} {s : Session}
    (hs : x.bus.session? p = some s) {d : Payload} {rest : List Payload}
    (hb : s.backlog = d :: rest) : x.bus.available = true := by
  refine Bool.not_eq_false _ |>.mp (fun hf => ?_)
  rw [h.line.quiet hf hs] at hb
  cases hb

theorem adapterHears (h : x.Sound name) {p : Payload} {b : Broker Party}
    (hn : x.bus.Gives .adapter (.payload p) b) :
    (x.act (Adapter.receive p x.adapter (x.taken b))).Sound name := by
  obtain ⟨s, rest, hs, hb, rfl⟩ := hn.payload
  have hp := h.pop hs hb
  -- what the adapter hears was sent by a generator with a session, which is open still
  have hgen := (isSome_session?_pop hs { s with backlog := rest } (.generator name)).trans
    (h.line.fed hs (by simp [hb]))
  have had := (isSome_session?_pop hs { s with backlog := rest } .adapter).trans
    (congrArg Option.isSome hs)
  generalize hr : Adapter.receive p x.adapter
    (x.taken (x.bus.setSession .adapter (some { s with backlog := rest }))) = r
  cases hr ▸ Adapter.receive_effect p x.adapter
    (x.taken (x.bus.setSession .adapter (some { s with backlog := rest }))) with
  | ignored m hm => exact { hp with }
  | anew msg m hm he =>
      exact
        { hp with
          known := fun _ => ⟨had, fun _ => hgen⟩
          waiting := fun _ => Nat.succ_ne_zero _
          announced := fun _ => ⟨x.scene.now, msg.epoch, by simp [act, taken]⟩ }
  | known msg m hm he hu =>
      have hknown : x.adapter.epoch?.isSome = true := by simp [he]
      exact
        { hp with
          known := fun _ => ⟨had, fun _ => hgen⟩
          announced := fun _ => by
            obtain ⟨t, e, hte⟩ := h.announced hknown
            exact ⟨t, e, by simp [act, taken, hte]⟩ }
  | delivered u sub m hm he hsub hid =>
      have hknown : x.adapter.epoch?.isSome = true := by simp [he]
      exact
        { hp with
          known := fun _ => ⟨had, fun _ => hgen⟩
          announced := fun _ => by
            obtain ⟨t, e, hte⟩ := h.announced hknown
            exact ⟨t, e, by simp [act, taken, hte]⟩ }

theorem adapterLoses (h : x.Sound name) {b : Broker Party}
    (hn : x.bus.Gives .adapter .lost b) :
    (x.act (Adapter.transportError x.adapter (x.taken b))).Sound name := by
  obtain ⟨s, hs, ho, rfl⟩ := hn.lost
  have hself := Broker.session?_setSession_self hs none
  have hother : (x.bus.setSession .adapter none).session? (.generator name) =
      x.bus.session? (.generator name) := Broker.session?_setSession_of_ne (by simp) none x.bus
  obtain ⟨subs, m, notes, -, he⟩ := Adapter.transportError_effect x.adapter
    (x.taken (x.bus.setSession .adapter none))
  have hidle : x.adapter.supervisors = [] :=
    h.adapterDials.done (by rw [hs]; rfl)
  rw [he, hidle]
  exact
    { h with
      line := h.line.lose hs ho
      adapterDials := by
        show Dials _ _ ((x.bus.setSession .adapter none).session? .adapter)
        rw [hself]
        exact Dials.lost x.adapter.newest x.adapter.config.recoveryPause
      generatorDials := h.generatorDials.congr (congrArg Option.isSome hother)
      unstarted := fun hz => absurd hz (Nat.succ_ne_zero _)
      unwired := fun hf =>
        let ⟨h₁, h₂, h₃, h₄⟩ := h.unwired hf
        ⟨h₁, h₂, h₃, hother.trans h₄⟩
      known := fun he => by cases he
      announced := fun he => by cases he }

theorem generatorHears (h : x.Sound name) {p : Payload} {b : Broker Party}
    (hn : x.bus.Gives (.generator name) (.payload p) b) {y : Duo}
    (hy : y = x.emit (Generator.receive (Broker.link (.generator name) 0) p x.generator
      (x.taken b)))
    (hl : y.bus.lagged = x.bus.lagged) : y.Sound name := by
  obtain ⟨s, rest, hs, hb, rfl⟩ := hn.payload
  have hp := h.pop hs hb
  have hw := h.wired_of_session? hs
  rcases Generator.receive_effect (k := Party.generator name) (l := 0) hw h.generatorHeld p
    (x.taken (x.bus.setSession (.generator name) (some { s with backlog := rest }))) with
    ⟨-, m, he⟩ | ⟨r, -, o, m, he⟩
  · rw [he] at hy
    subst hy
    exact { hp with }
  · rw [he] at hy
    subst hy
    cases r with
    | reset => exact hp.sends hw h.generatorHeld rfl rfl hl
    | subscribe i n => exact hp.sends hw h.generatorHeld rfl rfl hl
    | unsubscribe i n => exact hp.sends hw h.generatorHeld rfl rfl hl

theorem generatorLoses (h : x.Sound name) {b : Broker Party}
    (hn : x.bus.Gives (.generator name) .lost b) :
    (x.emit (x.generator.transportError, x.taken b)).Sound name := by
  obtain ⟨s, hs, ho, rfl⟩ := hn.lost
  have hself := Broker.session?_setSession_self hs none
  have hother : (x.bus.setSession (.generator name) none).session? .adapter =
      x.bus.session? .adapter := Broker.session?_setSession_of_ne (by simp) none x.bus
  have hidle : x.generator.supervisors = [] :=
    h.generatorDials.done (by rw [hs]; rfl)
  have hw := h.wired_of_session? hs
  have hdown := h.line.available_of_lost hs ho
  exact
    { h with
      line := h.line.lose hs ho
      adapterDials := h.adapterDials.congr (congrArg Option.isSome hother)
      generatorDials := by
        show Dials (x.generator.newest + 1) (x.generator.supervisors ++ _)
          ((x.bus.setSession (.generator name) none).session? (.generator name))
        rw [hself, hidle]
        exact Dials.lost x.generator.newest x.generator.config.recoveryPause
      unstarted := fun hz => ⟨(h.unstarted hz).1, hother.trans (h.unstarted hz).2⟩
      unwired := fun hf => by
        have hf : x.generator.wired = false := hf
        rw [hw] at hf
        cases hf
      known := fun he =>
        ⟨(congrArg Option.isSome hother).trans (h.known he).1, fun ha => by
          have ha : x.bus.available = true := ha
          rw [hdown] at ha
          cases ha⟩ }

/-- A piece of work keeps a duo sound. -/
theorem piece (h : x.Sound name) {y : Duo} (hp : Piece name x y)
    (hl : y.bus.lagged = x.bus.lagged) : y.Sound name := by
  cases hp with
  | adapterDials place r hr => exact h.dialAdapter (List.take_append_drop place _).symm hr
  | adapterLooks place r hr => exact h.lookAdapter hr
  | generatorDials place r hr =>
      exact h.dialGenerator (List.take_append_drop place _).symm hr
  | heartbeat hs hp => exact h.heartbeat hp rfl hl
  | trade ts hp =>
      exact h.trade (g := { x.generator with ticks := ts }) (h.wired_of_trade hp) rfl rfl rfl rfl
        rfl hl
  | round hr => exact h.round rfl hl
  | adapterHears p b hn => exact h.adapterHears hn
  | adapterLoses b hn => exact h.adapterLoses hn
  | generatorHears p b hn => exact h.generatorHears hn rfl hl
  | generatorLoses b hn => exact h.generatorLoses hn

end Pieces

section Drops

/-- A supervisor's party has no session, so the adapter knows no producer run. -/
theorem drops_dialAdapter (h : x.Sound name) {r : Adapter String × Scene (Broker Party) String}
    {vs done : List Supervisor} (hvs : x.adapter.supervisors = done ++ vs)
    (hr : Adapter.superviseFrom (Broker.link .adapter 0) x.adapter x.scene done vs = some r) :
    Drops x (x.act r) := by
  obtain ⟨⟨v, hv, hg, hw⟩, hnone⟩ := h.supervisor_of_adapterDials hvs hr
  have hepoch := h.epoch?_eq_none hnone
  obtain ⟨m, ⟨-, rfl⟩ | ⟨due, f, -, rfl⟩⟩ :=
    Adapter.superviseFrom_single h.adapterHeld hv hg hw hvs hr
  · exact .silent (not_fed_of_epoch? hepoch) rfl
  · exact .silent (not_fed_of_epoch? hepoch) rfl

/-- The generator has no session yet, so the feed is not up through an available broker. -/
theorem drops_dialGenerator (h : x.Sound name) {r : Generator × Scene (Broker Party) String}
    {vs done : List Supervisor} (hvs : x.generator.supervisors = done ++ vs)
    (hr : Generator.superviseFrom (Broker.link (.generator name) 0) x.generator x.scene done vs =
      some r) : Drops x (x.emit r) := by
  obtain ⟨⟨v, hv, hg, hw⟩, hnone⟩ := h.supervisor_of_generatorDials hvs hr
  have hdown : ¬ x.Fed := by
    rintro ⟨he, ha⟩
    have hopen := (h.known he).2 ha
    rw [hnone] at hopen
    cases hopen
  obtain ⟨m, ⟨-, rfl⟩ | ⟨due, f, -, rfl⟩⟩ :=
    Generator.superviseFrom_single h.generatorHeld hv hg hw hvs hr
  · have hsame := Broker.available_connect (Party.generator name)
      (x.bus.reset (.generator name))
    exact .silent (fun hf => hdown ⟨hf.1, hsame.symm.trans hf.2⟩) rfl
  · exact .silent hdown rfl

theorem drops_degrade (cause : DownCause) (ws : List Watchdog) :
    Drops x (x.act ({ (Adapter.degrade cause x.adapter x.scene).1 with watchdogs := ws },
      (Adapter.degrade cause x.adapter x.scene).2)) := by
  obtain ⟨subs, m, notes, -, hd⟩ := Adapter.degrade_effect cause x.adapter x.scene
  rw [hd]
  exact ⟨not_fed_of_epoch? rfl, _, Array.toList_append⟩

theorem drops_adapterLoses (b : Broker Party) :
    Drops x (x.act (Adapter.transportError x.adapter (x.taken b))) := by
  obtain ⟨subs, m, notes, -, he⟩ := Adapter.transportError_effect x.adapter (x.taken b)
  rw [he]
  exact ⟨not_fed_of_epoch? rfl, _, Array.toList_append⟩

theorem drops_generatorLoses (h : x.Sound name) {b : Broker Party}
    (hn : x.bus.Gives (.generator name) .lost b) :
    Drops x (x.emit (x.generator.transportError, x.taken b)) := by
  obtain ⟨s, hs, ho, rfl⟩ := hn.lost
  exact .silent (not_fed_of_available (h.line.available_of_lost hs ho)) rfl

end Drops

section Moves

/-- An open session of an idle broker has an available broker. -/
theorem available_of_idle (h : x.Sound name) (hi : Carrier.next? x.bus = none) {p : Party}
    {s : Session} (hs : x.bus.session? p = some s) : x.bus.available = true := by
  have hn := Broker.next?_eq_none (Option.map_eq_none_iff.mp hi) hs
  have hc := h.line.current hs
  exact hc.2.mp (Nat.le_antisymm hc.1 hn.2)

theorem subscribes (h : x.Sound name) {r : Adapter String × Scene (Broker Party) String}
    (hr : Adapter.Subscribes x.adapter x.scene r) : (x.act r).Sound name := by
  cases hr with
  | refused => exact { h with }
  | requested i handle he =>
      exact
        { h with
          waiting := fun _ => Nat.succ_ne_zero _
          announced := fun _ => by
            obtain ⟨t, e, hte⟩ := h.announced he
            exact ⟨t, e, by simp [act, Scene.note, hte]⟩ }
  | idle i handle subs m notes he hc =>
      have hnot : x.adapter.epoch?.isSome ≠ true := by simp [he]
      exact { h with announced := fun he' => absurd he' hnot }

theorem unsubscribes (h : x.Sound name) {a : Adapter String}
    (ha : Adapter.Unsubscribes x.adapter a) : ({ x with adapter := a } : Duo).Sound name := by
  cases ha with
  | refused => exact h
  | requested i sub he hs => exact { h with waiting := fun _ => Nat.succ_ne_zero _ }
  | idle i he => exact { h with }

theorem move (h : x.Sound name) (m : Move) (hi : Idle name x)
    (hl : (x.move name m).bus.lagged = x.bus.lagged) : (x.move name m).Sound name := by
  cases m with
  | subscribe item handle =>
      exact h.subscribes (Adapter.subscribe_effect item handle x.adapter x.scene)
  | unsubscribe item => exact h.unsubscribes (Adapter.unsubscribe_effect item x.adapter)
  | sleep span => exact h
  | clock seconds => exact { h with }
  | tick =>
      by_cases hw : x.generator.wired = true
      · exact h.trade hw rfl rfl rfl rfl rfl hl
      · show (x.emit (Generator.tick _ x.generator x.scene).2).Sound name
        rw [Generator.tick_of_unwired (Bool.eq_false_iff.mpr hw)]
        exact { h with }
  | available value =>
      exact
        { h with
          line := h.line.setAvailable hi.bus value
          known := fun he => by
            obtain ⟨s, hs⟩ := Option.isSome_iff_exists.mp (h.known he).1
            exact ⟨(h.known he).1, fun _ => (h.known he).2 (h.available_of_idle hi.bus hs)⟩ }

theorem startAdapter (h : x.Sound name) (hz : x.adapter.newest = 0) :
    x.startAdapter.Sound name := by
  obtain ⟨hidle, hnone⟩ := h.unstarted hz
  have hsame := fun q => Broker.session?_listen Party.adapter q 0 x.bus
  have hlistens := h.withBus x.scene.metrics (h.line.listen 0)
    (fun q => congrArg Option.isSome (hsame q)) rfl
  exact
    { hlistens with
      adapterDials := by
        show Dials (x.adapter.newest + 1) (x.adapter.supervisors ++ _)
          ((x.bus.listen .adapter 0).session? .adapter)
        rw [hidle, hsame, hnone]
        exact Dials.lost x.adapter.newest x.adapter.config.recoveryPause
      unstarted := fun hz => absurd hz (Nat.succ_ne_zero _) }

theorem startGenerator (h : x.Sound name) (hf : x.generator.wired = false) :
    (x.startGenerator name).Sound name := by
  obtain ⟨hidle, -, -, hnone⟩ := h.unwired hf
  have hsame := fun q => Broker.session?_listen (Party.generator name) q 0 x.bus
  have hlistens := h.withBus x.scene.metrics (h.line.listen 0)
    (fun q => congrArg Option.isSome (hsame q)) rfl
  exact
    { hlistens with
      generatorDials := by
        show Dials (x.generator.newest + 1) (x.generator.supervisors ++ _)
          ((x.bus.listen (.generator name) 0).session? (.generator name))
        rw [hidle, hsame, hnone]
        exact Dials.lost x.generator.newest x.generator.config.recoveryPause
      unwired := fun hf => by cases hf }

end Moves

end Sound

section Beginning

variable {name : String}

/-- A fresh deployment is that of a duo whose parties were only just made. -/
theorem exists_of_fresh {d : Deployment (Broker Party)} (h : d.Fresh name) :
    ∃ x : Duo, d = x.deploy name ∧ x.bus.Joins name ∧ (∀ p, x.bus.session? p = none) ∧
      (∃ c, Adapter.create c = .ok x.adapter) ∧ (∃ c, Generator.create c = .ok x.generator) ∧
      x.scene.journal = #[] := by
  obtain ⟨s, a?, gs, held⟩ := d
  obtain ⟨⟨ca, a, ha, hae⟩, ⟨cg, g, hg, hge⟩, ⟨q, t, q', t', hends⟩, hheld, hj⟩ := h
  cases hae
  cases hge
  cases hheld
  refine ⟨⟨a, g, s⟩, rfl, ?_, fun p => ?_, ⟨ca, ha⟩, ⟨cg, hg⟩, hj⟩
  · rcases hends with hb | hb
    · exact Or.inl (by rw [Broker.roster, hb]; rfl)
    · exact Or.inr (by rw [Broker.roster, hb]; rfl)
  · have hall : ∀ e ∈ s.bus.endpoints, e.2.session = none := by
      intro e he
      rcases hends with hb | hb
      all_goals
        rw [show s.bus.endpoints = _ from hb] at he
        rcases List.mem_cons.mp he with rfl | he
        · rfl
        · rw [List.mem_singleton.mp he]
          rfl
    cases hf : s.bus.endpoints.find? (fun e => e.1 = p) with
    | none => simp [Broker.session?, Broker.endpoint?, hf]
    | some e =>
        simp [Broker.session?, Broker.endpoint?, hf, hall e (List.mem_of_find?_eq_some hf)]

/-- What an adapter is like that was only just made. -/
theorem adapter_of_create {c : AdapterConfig} {a : Adapter String}
    (h : Adapter.create c = .ok a) :
    a.released = false ∧ a.newest = 0 ∧ a.supervisors = [] ∧ a.book = .initial := by
  obtain ⟨o, rfl⟩ := Adapter.eq_of_create h
  exact ⟨rfl, rfl, rfl, rfl⟩

/-- What a generator is like that was only just made. -/
theorem generator_of_create {c : GeneratorConfig} {g : Generator}
    (h : Generator.create c = .ok g) :
    g.released = false ∧ g.supervisors = [] ∧ g.heartbeats = [] ∧ g.ticks = [] ∧
      g.gate = .empty := by
  obtain ⟨o, rfl⟩ := Generator.eq_of_create h
  exact ⟨rfl, rfl, rfl, rfl, rfl⟩

/-- A duo whose parties were only just made is sound. -/
theorem Sound.ofFresh {x : Duo} (hj : x.bus.Joins name) (hs : ∀ p, x.bus.session? p = none)
    (ha : ∃ c, Adapter.create c = .ok x.adapter)
    (hg : ∃ c, Generator.create c = .ok x.generator) : x.Sound name := by
  obtain ⟨ca, ha⟩ := ha
  obtain ⟨cg, hg⟩ := hg
  obtain ⟨har, han, hav, hab⟩ := adapter_of_create ha
  obtain ⟨hgr, hgv, hgh, hgt, -⟩ := generator_of_create hg
  have hepoch : x.adapter.epoch?.isSome ≠ true := by
    rw [Adapter.epoch?, hab]
    decide
  have hnever : ∀ {p s}, x.bus.session? p ≠ some s := by
    intro p s
    rw [hs]
    exact Option.some_ne_none s ∘ Eq.symm
  exact
    { line := ⟨hj, fun h => absurd h hnever, fun _ h => absurd h hnever,
        fun h => absurd h hnever, fun h => absurd h hnever⟩
      adapterHeld := har
      generatorHeld := hgr
      adapterDials := ⟨Or.inl hav, fun _ => hav⟩
      generatorDials := ⟨Or.inl hgv, fun _ => hgv⟩
      unstarted := fun _ => ⟨hav, hs _⟩
      unwired := fun _ => ⟨hgv, hgh, hgt, hs _⟩
      known := fun he => absurd he hepoch
      waiting := fun hp => absurd (by rw [hab]; rfl) hp
      announced := fun he => absurd he hepoch }

end Beginning

end Duo

end QuoteBridge
