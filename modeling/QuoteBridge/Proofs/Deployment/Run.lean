import QuoteBridge.Proofs.Deployment.Lag

/-!
# Runs of a deployment

A deployment of one adapter and one generator, from its making through any number of moves.  Each
move is settled before the next one, in whatever order its work is done.

**Input.**  The broker may be at any capacity and may know any destinations; the two parties may be
made with any settings and started at any time, in any order.

**Results.**
* `Timeline.sleep_induction`: what a step and a change of the time keep is kept while time passes.
* `Duo.Kept.run`: an invariant of the pieces and of the moves holds after every run on which
  nothing lags.
* `Duo.Kept.exists_of_feeds`: it holds in every settled state of such a run with the feed up.
-/

namespace QuoteBridge

namespace Timeline

variable {σ : Type} {tl : Timeline σ} {I : σ → Prop}

theorem work_induction (hstep : ∀ s s', I s → tl.step? s = some s' → I s') (fuel : Nat) {s : σ}
    (h : I s) : I (tl.work fuel s) := by
  induction fuel generalizing s with
  | zero => exact h
  | succ fuel ih =>
      unfold work
      split
      · exact h
      · rename_i s' hs
        exact ih (hstep s s' h hs)

theorem settle_induction (hstep : ∀ s s', I s → tl.step? s = some s' → I s') {s : σ} (h : I s) :
    I (tl.settle s) :=
  work_induction hstep stepLimit h

theorem advance_induction (hstep : ∀ s s', I s → tl.step? s = some s' → I s')
    (htime : ∀ t s, I s → I (tl.setNow t s)) (target fuel : Nat) {s : σ} (h : I s) :
    I (tl.advance target fuel s) := by
  induction fuel generalizing s with
  | zero => exact h
  | succ fuel ih =>
      unfold advance
      split
      · exact htime target s h
      · rename_i t _
        split
        · exact ih (settle_induction hstep (htime t s h))
        · exact htime target s h

/-- What a step and a change of the time keep is kept while time passes. -/
theorem sleep_induction (hstep : ∀ s s', I s → tl.step? s = some s' → I s')
    (htime : ∀ t s, I s → I (tl.setNow t s)) (span : Nat) {s : σ} (h : I s) :
    I (tl.sleep span s) := by
  unfold sleep
  split
  · exact h
  · exact advance_induction hstep htime _ span (settle_induction hstep h)

end Timeline

/-- What can happen to a deployment from outside. -/
inductive Move
  | subscribe (item handle : String)
  | unsubscribe (item : String)
  | tick
  | sleep (span : Nat)
  | available (value : Bool)
  | clock (seconds : Nat)

namespace Deployment

/-- Makes a move; ticks are those of the generator of the name. -/
def move (name : String) : Move → Deployment (Broker Party) → Deployment (Broker Party)
  | .subscribe item handle, d => (d.subscribe item handle).2
  | .unsubscribe item, d => (d.unsubscribe item).2
  | .tick, d => (d.tickGenerator name 1).2
  | .sleep span, d => d.sleep span
  | .available value, d => d.mapBus (Broker.setAvailable value)
  | .clock seconds, d => d.setClock seconds

/-- A deployment of one adapter and one generator before anything has happened. -/
structure Fresh (name : String) (d : Deployment (Broker Party)) : Prop where
  adapter : ∃ c a, Adapter.create c = .ok a ∧ d.adapter = some a
  generator : ∃ c g, Generator.create c = .ok g ∧ d.generators = [(name, g)]
  endpoints : ∃ q t q' t',
    d.scene.bus.endpoints =
        [(.adapter, .create .adapter q t), (.generator name, .create .generator q' t')] ∨
      d.scene.bus.endpoints =
        [(.generator name, .create .generator q' t'), (.adapter, .create .adapter q t)]
  held : d.held = false
  journal : d.scene.journal = #[]

/-- An adapter and a generator at a new broker that knows a queue and a topic. -/
def assemble (name : String) (ac : AdapterConfig) (gc : GeneratorConfig) (capacity : Nat)
    (queue topic : String) : Except PoolError (Deployment (Broker Party)) := do
  let bus := ((Broker.create capacity).declare queue).declare topic
  let d ← (create 0 bus).addAdapter ac
  let d ← (d.join .adapter .adapter queue topic).addGenerator name gc
  return d.join (.generator name) .generator queue topic

/-- What was assembled is fresh. -/
theorem fresh_of_assemble {name : String} {ac : AdapterConfig} {gc : GeneratorConfig}
    {capacity : Nat} {queue topic : String} {d : Deployment (Broker Party)}
    (h : assemble name ac gc capacity queue topic = .ok d) : d.Fresh name := by
  simp only [assemble, addAdapter, addGenerator] at h
  cases ha : (Adapter.create ac : Except PoolError (Adapter String)) with
  | error e => simp [ha, bind, Except.bind] at h
  | ok a =>
      cases hg : Generator.create gc with
      | error e => simp [ha, hg, bind, Except.bind, pure, Except.pure] at h
      | ok g =>
          simp only [ha, hg, bind, Except.bind, pure, Except.pure, Except.ok.injEq] at h
          subst h
          refine ⟨⟨ac, a, ha, rfl⟩, ⟨gc, g, hg, rfl⟩, ⟨queue, topic, queue, topic, Or.inl ?_⟩, rfl,
            rfl⟩
          simp [join, mapBus, Broker.join, Broker.leave, Outbox.announce, create, Broker.declare,
            Broker.create, Scene.initial]

/-- The adapter was not started yet. -/
def AdapterRests (d : Deployment (Broker Party)) : Prop :=
  ∀ a, d.adapter = some a → a.newest = 0

/-- The generator of a name was not started yet. -/
def GeneratorRests (name : String) (d : Deployment (Broker Party)) : Prop :=
  ∀ g, d.generator? name = some g → g.wired = false

/-- Runs of moves.  A move finds no work left, and either party is started once.  The work that
is left is done in any order, the deployment's own order among them, and time may pass at any
moment. -/
inductive Run (name : String) : Deployment (Broker Party) → Deployment (Broker Party) → Prop
  | refl (d : Deployment (Broker Party)) : Run name d d
  | move (m : Move) {d₀ d : Deployment (Broker Party)} (hr : Run name d₀ d)
      (hs : d.step? = none) : Run name d₀ (d.move name m)
  | startAdapter {d₀ d : Deployment (Broker Party)} (hr : Run name d₀ d) (hs : d.step? = none)
      (h : d.AdapterRests) : Run name d₀ d.startAdapter
  | startGenerator {d₀ d : Deployment (Broker Party)} (hr : Run name d₀ d) (hs : d.step? = none)
      (h : d.GeneratorRests name) : Run name d₀ (d.startGenerator name)
  | work {d₀ : Deployment (Broker Party)} {x y : Duo} (hr : Run name d₀ (x.deploy name))
      (hp : x.Piece name y) : Run name d₀ (y.deploy name)
  | settle {d₀ d : Deployment (Broker Party)} (hr : Run name d₀ d) : Run name d₀ d.settle
  | wait (t : Nat) {d₀ d : Deployment (Broker Party)} (hr : Run name d₀ d)
      (ht : d.scene.now ≤ t) : Run name d₀ (timeline.setNow t d)

/-- A settled state without lag in which the adapter's feed is up. -/
structure Feeds (name : String) (d : Deployment (Broker Party)) (a : Adapter String)
    (g : Generator) : Prop where
  settled : d.step? = none
  neverLagged : d.scene.bus.lagged = 0
  adapter : d.adapter = some a
  generator : d.generator? name = some g
  up : a.status = .up

/-- Whether a state is settled without lag and has its feed up. -/
def feeds (name : String) (d : Deployment (Broker Party)) : Bool :=
  d.step?.isNone && d.scene.bus.lagged == 0 && d.adapter.map Adapter.status == some .up &&
    (d.generator? name).isSome

theorem exists_of_feeds {name : String} {d : Deployment (Broker Party)}
    (h : d.feeds name = true) : ∃ a g, d.Feeds name a g := by
  simp only [feeds, Bool.and_eq_true, Option.isNone_iff_eq_none, beq_iff_eq] at h
  obtain ⟨⟨⟨hs, hl⟩, ha⟩, hg⟩ := h
  obtain ⟨a, ha, hup⟩ := Option.map_eq_some_iff.mp ha
  obtain ⟨g, hg⟩ := Option.isSome_iff_exists.mp hg
  exact ⟨a, g, hs, hl, ha, hg, hup⟩

section Demonstration

/-- Settings of a generator whose market trades once a second. -/
def demoConfig : GeneratorConfig := ⟨50, 1000, 20, 2, some 7, some 1⟩

/-- A small deployment. -/
def demo : Deployment (Broker Party) :=
  (assemble "g" .brisk demoConfig 1000 "q" "t").toOption.getD (create 0 (Broker.create 0))

/-- The small deployment with both parties started. -/
def demoStarted : Deployment (Broker Party) := (demo.startAdapter.settle.startGenerator "g").settle

/-- The small deployment once its subscription was answered. -/
def demoFed : Deployment (Broker Party) :=
  ((demoStarted.move "g" (.subscribe "item5" "h")).settle.move "g" (.sleep 60)).settle

theorem demo_fresh : demo.Fresh "g" :=
  fresh_of_assemble (show assemble "g" .brisk demoConfig 1000 "q" "t" = .ok demo from rfl)

theorem demoStarted_run : Run "g" demo demoStarted := by
  have h₀ : demo.step?.isNone = true := by decide +kernel
  have h₁ : demo.startAdapter.settle.step?.isNone = true := by decide +kernel
  refine .settle (.startGenerator (.settle (.startAdapter (.refl demo) (by simpa using h₀) ?_))
    (by simpa using h₁) ?_)
  · intro a ha
    have hz : demo.adapter.map Adapter.newest = some 0 := by decide +kernel
    rw [ha] at hz
    exact Option.some.inj hz
  · intro g hg
    have hw : (demo.startAdapter.settle.generator? "g").map Generator.wired = some false := by
      decide +kernel
    rw [hg] at hw
    exact Option.some.inj hw

theorem demoFed_run : Run "g" demo demoFed := by
  have h₂ : demoStarted.step?.isNone = true := by decide +kernel
  have h₃ : (demoStarted.move "g" (.subscribe "item5" "h")).settle.step?.isNone = true := by
    decide +kernel
  have hsubscribed :=
    Run.settle (.move (.subscribe "item5" "h") demoStarted_run (by simpa using h₂))
  exact .settle (.move (.sleep 60) hsubscribed (by simpa using h₃))

/-- Its feed is up, with one subscription. -/
theorem demoFed_feeds : ∃ a g, demoFed.Feeds "g" a g ∧ a.subscriptionCount = 1 := by
  have h : (demoFed.feeds "g" && demoFed.adapter.map Adapter.subscriptionCount == some 1) =
      true := by decide +kernel
  simp only [Bool.and_eq_true, beq_iff_eq] at h
  obtain ⟨a, g, hf⟩ := exists_of_feeds h.1
  have hn := h.2
  rw [hf.adapter] at hn
  exact ⟨a, g, hf, Option.some.inj hn⟩

end Demonstration

end Deployment

namespace Duo

/-- The duo after a move. -/
def move (name : String) (m : Move) (x : Duo) : Duo :=
  match m with
  | .subscribe item handle => x.act (x.adapter.subscribe item handle x.scene).2
  | .unsubscribe item => { x with adapter := (x.adapter.unsubscribe item).2 }
  | .tick => x.emit (Generator.tick (Broker.link (.generator name) 0) x.generator x.scene).2
  | .sleep _ => x
  | .available value => { x with scene := { x.scene with bus := x.bus.setAvailable value } }
  | .clock seconds => { x with scene := { x.scene with clock := seconds } }

/-- The duo at another time. -/
def atTime (t : Nat) (x : Duo) : Duo := { x with scene := { x.scene with now := t } }

/-- The duo whose adapter was started. -/
def startAdapter (x : Duo) : Duo :=
  x.act (Adapter.start (Broker.link .adapter 0) x.adapter x.scene)

/-- The duo whose generator was started. -/
def startGenerator (name : String) (x : Duo) : Duo :=
  x.emit (Generator.start (Broker.link (.generator name) 0) x.generator x.scene)

variable {name : String}

theorem deploy_injective {x y : Duo} (h : x.deploy name = y.deploy name) : x = y := by
  cases x
  cases y
  simp only [deploy, Deployment.mk.injEq, Option.some.injEq, List.cons.injEq, Prod.mk.injEq,
    true_and, and_true] at h
  obtain ⟨rfl, rfl, rfl⟩ := h
  rfl

theorem generator?_deploy (x : Duo) : (x.deploy name).generator? name = some x.generator := by
  simp [Deployment.generator?, deploy]

theorem move_deploy {m : Move} (hm : ∀ span, m ≠ .sleep span) (x : Duo) :
    (x.deploy name).move name m = (x.move name m).deploy name := by
  cases m with
  | subscribe item handle => rfl
  | unsubscribe item => rfl
  | sleep span => exact absurd rfl (hm span)
  | available value => rfl
  | clock seconds => rfl
  | tick =>
      simp only [Deployment.move, Deployment.tickGenerator, generator?_deploy,
        Generator.tickAll]
      simp [Deployment.setGenerator, deploy, move, emit]
      exact ⟨rfl, rfl⟩

theorem startGenerator_deploy (x : Duo) :
    (x.deploy name).startGenerator name = (x.startGenerator name).deploy name := by
  simp only [Deployment.startGenerator, Deployment.withGenerator, generator?_deploy]
  simp [Deployment.setGenerator, deploy, startGenerator, emit]
  exact ⟨rfl, rfl⟩

theorem move_follows (m : Move) (x : Duo) : x.bus.Follows (x.move name m).bus := by
  cases m with
  | subscribe item handle =>
      show x.bus.Follows (x.adapter.subscribe item handle x.scene).2.2.bus
      generalize hr : (x.adapter.subscribe item handle x.scene).2 = r
      cases hr ▸ Adapter.subscribe_effect item handle x.adapter x.scene <;>
        exact Broker.Follows.refl x.bus
  | unsubscribe item => exact Broker.Follows.refl x.bus
  | tick => exact Generator.hear_follows _ _ x.scene
  | sleep span => exact Broker.Follows.refl x.bus
  | available value => exact ⟨rfl, Nat.le_refl _⟩
  | clock seconds => exact Broker.Follows.refl x.bus

theorem startAdapter_follows (x : Duo) : x.bus.Follows x.startAdapter.bus :=
  ⟨Broker.roster_listen Party.adapter 0 x.bus, Nat.le_refl _⟩

theorem startGenerator_follows (x : Duo) : x.bus.Follows (x.startGenerator name).bus :=
  ⟨Broker.roster_listen (Party.generator name) 0 x.bus, Nat.le_refl _⟩

/-- The invariant is kept by every piece of work, by the passing of time, and by every move that
finds no work left, as long as nothing lags. -/
structure Kept (name : String) (I : Duo → Prop) : Prop where
  piece : ∀ x y, I x → Piece name x y → y.bus.lagged = x.bus.lagged → I y
  time : ∀ x t, I x → I (x.atTime t)
  move : ∀ x m, I x → Idle name x → (x.move name m).bus.lagged = x.bus.lagged →
    I (x.move name m)
  startAdapter : ∀ x, I x → Idle name x → x.adapter.newest = 0 → I x.startAdapter
  startGenerator : ∀ x, I x → Idle name x → x.generator.wired = false → I (x.startGenerator name)

/-- The deployment of a duo that satisfies the invariant, unless something has lagged. -/
def Holds (name : String) (I : Duo → Prop) (d : Deployment (Broker Party)) : Prop :=
  ∃ x : Duo, d = x.deploy name ∧ x.bus.Joins name ∧ (x.bus.lagged = 0 → I x)

variable {I : Duo → Prop}

/-- A later duo on which nothing lags comes from one on which nothing lags. -/
theorem holds_of_follows {x y : Duo} (hj : x.bus.Joins name) (hI : x.bus.lagged = 0 → I x)
    (hf : x.bus.Follows y.bus) (h : y.bus.lagged = x.bus.lagged → I x → I y) :
    Holds name I (y.deploy name) := by
  refine ⟨y, rfl, hj.of_roster_eq hf.1, fun hl => ?_⟩
  have hx : x.bus.lagged = 0 := Nat.eq_zero_of_le_zero (hl ▸ hf.2)
  exact h (by rw [hl, hx]) (hI hx)

theorem Kept.step? (hk : Kept name I) (d d' : Deployment (Broker Party)) (h : Holds name I d)
    (hs : d.step? = some d') : Holds name I d' := by
  obtain ⟨x, rfl, hj, hI⟩ := h
  obtain ⟨y, hp, rfl⟩ := step?_cases hj hs
  exact holds_of_follows hj hI hp.follows (fun hl hx => hk.piece x y hx hp hl)

theorem Kept.setNow (hk : Kept name I) (t : Nat) (d : Deployment (Broker Party))
    (h : Holds name I d) : Holds name I (Deployment.timeline.setNow t d) := by
  obtain ⟨x, rfl, hj, hI⟩ := h
  exact ⟨x.atTime t, rfl, hj, fun hl => hk.time x t (hI hl)⟩

theorem Kept.settle (hk : Kept name I) {d : Deployment (Broker Party)} (h : Holds name I d) :
    Holds name I d.settle :=
  Timeline.settle_induction hk.step? h

theorem Kept.moved (hk : Kept name I) (m : Move) {d : Deployment (Broker Party)}
    (h : Holds name I d) (hs : d.step? = none) : Holds name I (d.move name m) := by
  by_cases hm : ∃ span, m = .sleep span
  · obtain ⟨span, rfl⟩ := hm
    exact Timeline.sleep_induction hk.step? hk.setNow span h
  · obtain ⟨x, rfl, hj, hI⟩ := h
    rw [move_deploy (fun span h => hm ⟨span, h⟩)]
    exact holds_of_follows hj hI (move_follows m x)
      (fun hl hx => hk.move x m hx (idle_of_step?_eq_none hs) hl)

/-- An invariant that is kept holds after every run. -/
theorem Kept.run (hk : Kept name I) {d₀ d : Deployment (Broker Party)} (h₀ : Holds name I d₀)
    (hr : Deployment.Run name d₀ d) : Holds name I d := by
  induction hr with
  | refl => exact h₀
  | move m hr hs ih => exact hk.moved m (ih h₀) hs
  | startAdapter hr hs hrests ih =>
      obtain ⟨x, rfl, hj, hI⟩ := ih h₀
      refine holds_of_follows hj hI (startAdapter_follows x) (fun _ hx => ?_)
      exact hk.startAdapter x hx (idle_of_step?_eq_none hs) (hrests x.adapter rfl)
  | startGenerator hr hs hrests ih =>
      obtain ⟨x, rfl, hj, hI⟩ := ih h₀
      rw [startGenerator_deploy]
      refine holds_of_follows hj hI (startGenerator_follows x) (fun _ hx => ?_)
      exact hk.startGenerator x hx (idle_of_step?_eq_none hs)
        (hrests x.generator (generator?_deploy x))
  | work hr hp ih =>
      obtain ⟨x, hx, hj, hI⟩ := ih h₀
      cases deploy_injective hx
      exact holds_of_follows hj hI hp.follows (fun hl hI => hk.piece _ _ hI hp hl)
  | settle hr ih => exact hk.settle (ih h₀)
  | wait t hr ht ih => exact hk.setNow t _ (ih h₀)

/-- A feed that is up knows a producer run. -/
theorem epoch?_of_status {a : Adapter String} (h : a.status = .up) :
    a.epoch?.isSome = true := by
  rw [Adapter.status, Liveness.status] at h
  split at h
  · cases h
  · cases h
  · rename_i e he
    simp [Adapter.epoch?, he]

/-- A settled state of a run with the feed up is that of an idle duo with the invariant. -/
theorem Kept.exists_of_feeds (hk : Kept name I) {d₀ d : Deployment (Broker Party)}
    (h₀ : Holds name I d₀) (hr : Deployment.Run name d₀ d) {a : Adapter String} {g : Generator}
    (h : d.Feeds name a g) :
    ∃ x : Duo, I x ∧ x.Idle name ∧ x.adapter.epoch?.isSome = true ∧ x.adapter = a ∧
      x.generator = g ∧ d = x.deploy name := by
  obtain ⟨x, rfl, -, hI⟩ := hk.run h₀ hr
  have ha : x.adapter = a := Option.some.inj h.adapter
  have hg : x.generator = g := Option.some.inj ((generator?_deploy x).symm.trans h.generator)
  have he : x.adapter.epoch?.isSome = true := by
    rw [ha]
    exact epoch?_of_status h.up
  exact ⟨x, hI h.neverLagged, idle_of_step?_eq_none h.settled, he, ha, hg, rfl⟩

end Duo

end QuoteBridge
