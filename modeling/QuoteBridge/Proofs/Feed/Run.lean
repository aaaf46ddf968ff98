import QuoteBridge.Feed
import QuoteBridge.Proofs.Deployment.Sound

/-!
# Runs of the whole feed

A feed from its building on, in virtual time: calls come at any moment, the work that is left is
done in any order, and time moves on when all work is done, but never past a timer.

**Input.**  Any configuration that is accepted; any calls, among them further starts, shutdowns and
outages of the broker.

**Results.**
* `Feed.exists_of_build`: a feed that was only just built.
* `Feed.Run.induction`: what calls, pieces of work and time keep holds after every run.
* `Feed.Run.settle`: a feed may do its work in its own order.
-/

namespace QuoteBridge

/-- What can be asked of a feed from outside. -/
inductive Feed.Call
  | start
  | shutdown
  | subscribe (item handle : String)
  | unsubscribe (item : String)
  | available (value : Bool)
  | clock (seconds : Nat)
  deriving DecidableEq

namespace Feed

/-- Answers a call. -/
def call (f : Feed) : Call → Feed
  | .start => f.start.2
  | .shutdown => f.shutdown
  | .subscribe item handle => { f with deployment := (f.deployment.subscribe item handle).2 }
  | .unsubscribe item => { f with deployment := (f.deployment.unsubscribe item).2 }
  | .available value => { f with deployment := f.deployment.mapBus (Broker.setAvailable value) }
  | .clock seconds => { f with deployment := f.deployment.setClock seconds }

/-- The known producer run of the adapter. -/
def epoch? (f : Feed) : Option Epoch := f.deployment.adapter.bind Adapter.epoch?

/-- Runs of a feed with the calls that were made. -/
inductive Run : List Call → Feed → Feed → Prop
  | refl (f : Feed) : Run [] f f
  | called (c : Call) {cs : List Call} {f₀ f : Feed} (hr : Run cs f₀ f) :
      Run (cs ++ [c]) f₀ (f.call c)
  | worked {cs : List Call} {f₀ : Feed} {c : Config} {x y : Duo}
      (hr : Run cs f₀ ⟨c, x.deploy generatorName⟩) (hp : x.Piece generatorName y) :
      Run cs f₀ ⟨c, y.deploy generatorName⟩
  | waited (t : Nat) {cs : List Call} {f₀ f : Feed} (hr : Run cs f₀ f)
      (hs : f.deployment.step? = none) (ht : f.deployment.scene.now ≤ t)
      (hw : ∀ wake ∈ f.deployment.wakes, t ≤ wake) :
      Run cs f₀ { f with deployment := Deployment.timeline.setNow t f.deployment }

end Feed

namespace Duo

/-- The duo both of whose parties were shut down. -/
def shutdown (name : String) (x : Duo) : Duo :=
  let y := x.act (x.adapter.shutdown (Broker.link .adapter 0) x.scene)
  y.emit (y.generator.shutdown (Broker.link (.generator name) 0) y.scene)

/-- The duo that was subscribed to items in turn, up to the first one that is refused. -/
def subscribeAll : List String → Duo → Duo
  | [], x => x
  | i :: is, x =>
      match (x.adapter.subscribe i i x.scene).1 with
      | .ok _ => subscribeAll is (x.act (x.adapter.subscribe i i x.scene).2)
      | .error _ => x.act (x.adapter.subscribe i i x.scene).2

/-- The duo after a call of its feed, which subscribes to the given items at a start. -/
def call (items : List String) (x : Duo) : Feed.Call → Duo
  | .start => subscribeAll items (x.startGenerator Feed.generatorName).startAdapter
  | .shutdown => x.shutdown Feed.generatorName
  | .subscribe item handle => x.move Feed.generatorName (.subscribe item handle)
  | .unsubscribe item => x.move Feed.generatorName (.unsubscribe item)
  | .available value => x.move Feed.generatorName (.available value)
  | .clock seconds => x.move Feed.generatorName (.clock seconds)

variable {name : String}

theorem shutdownGenerator_deploy (x : Duo) :
    (x.deploy name).shutdownGenerator name =
      (x.emit (x.generator.shutdown (Broker.link (.generator name) 0) x.scene)).deploy name := by
  simp only [Deployment.shutdownGenerator, Deployment.withGenerator, generator?_deploy]
  simp [Deployment.setGenerator, deploy, emit]
  exact ⟨rfl, rfl⟩

theorem subscribeAll_deploy (items : List String) (x : Duo) :
    (Feed.subscribeAll items (x.deploy name)).2 = (subscribeAll items x).deploy name := by
  induction items generalizing x with
  | nil => rfl
  | cons i is ih =>
      have hsub : (x.deploy name).subscribe i i =
          ((x.adapter.subscribe i i x.scene).1,
            (x.act (x.adapter.subscribe i i x.scene).2).deploy name) := rfl
      rw [Feed.subscribeAll, subscribeAll, hsub]
      cases (x.adapter.subscribe i i x.scene).1 with
      | ok id => exact ih _
      | error e => rfl

theorem call_deploy (c : Config) (x : Duo) (k : Feed.Call) :
    (⟨c, x.deploy Feed.generatorName⟩ : Feed).call k =
      ⟨c, (x.call c.items k).deploy Feed.generatorName⟩ := by
  cases k with
  | start =>
      have hstart := @subscribeAll_deploy Feed.generatorName c.items
        (x.startGenerator Feed.generatorName).startAdapter
      simp only [Feed.call, Feed.start, startGenerator_deploy]
      rw [call, ← hstart]
      rfl
  | shutdown =>
      have hstop := @shutdownGenerator_deploy Feed.generatorName
        (x.act (x.adapter.shutdown (Broker.link .adapter 0) x.scene))
      rw [call, shutdown, ← hstop]
      rfl
  | subscribe item handle => rfl
  | unsubscribe item => rfl
  | available value => rfl
  | clock seconds => rfl

/-- What subscriptions keep is kept by subscribing to items in turn. -/
theorem subscribeAll_induction {I : Duo → Prop}
    (hsub : ∀ item handle x, I x → I (x.act (x.adapter.subscribe item handle x.scene).2))
    (items : List String) {x : Duo} (h : I x) : I (subscribeAll items x) := by
  induction items generalizing x with
  | nil => exact h
  | cons i is ih =>
      unfold subscribeAll
      split
      · exact ih (hsub i i x h)
      · exact hsub i i x h

end Duo

namespace Feed

section Building

/-- The broker of a feed that was only just built. -/
def builtBus (c : Config) : Broker Party where
  capacity := Broker.powerOfTwo Broker.defaultCapacity
  declared := [c.bus.topicName, c.bus.queueName]
  available := true
  outages := 0
  routed := 0
  lagged := 0
  endpoints :=
    [(.generator generatorName, .create .generator c.bus.queueName c.bus.topicName),
      (.adapter, .create .adapter c.bus.queueName c.bus.topicName)]

theorem joins_builtBus (c : Config) : (builtBus c).Joins generatorName := Or.inr rfl

theorem session?_builtBus (c : Config) (p : Party) : (builtBus c).session? p = none := by
  have hall : ∀ e ∈ (builtBus c).endpoints, e.2.session = none := by
    intro e he
    rcases List.mem_cons.mp he with rfl | he
    · rfl
    · rw [List.mem_singleton.mp he]
      rfl
  cases hf : (builtBus c).endpoints.find? (fun e => e.1 = p) with
  | none => simp [Broker.session?, Broker.endpoint?, hf]
  | some e => simp [Broker.session?, Broker.endpoint?, hf, hall e (List.mem_of_find?_eq_some hf)]

/-- A feed that was only just built is that of two parties that were only just made. -/
theorem exists_of_build {clock : Nat} {c : Config} {f : Feed} (h : build clock c = .ok f) :
    ∃ x : Duo, f = ⟨c, x.deploy generatorName⟩ ∧ c.validate = .ok () ∧
      Adapter.create c.adapterConfig = .ok x.adapter ∧
      Generator.create c.generatorConfig = .ok x.generator ∧
      ∃ m, x.scene = ⟨0, clock, builtBus c, m, #[]⟩ := by
  unfold build at h
  cases hv : c.validate with
  | error e => simp [hv] at h
  | ok u =>
      simp only [hv, Deployment.addGenerator, Deployment.addAdapter] at h
      cases hg : Generator.create c.generatorConfig with
      | error e => simp [hg, ofPool, bind, Except.bind] at h
      | ok g =>
          cases ha : (Adapter.create c.adapterConfig : Except PoolError (Adapter String)) with
          | error e => simp [hg, ha, ofPool, bind, Except.bind, pure, Except.pure] at h
          | ok a =>
              simp only [hg, ha, ofPool, bind, Except.bind, pure, Except.pure,
                Except.ok.injEq] at h
              subst h
              have hbus : ((((Broker.create Broker.defaultCapacity).declare c.bus.queueName).declare
                  c.bus.topicName).join (.generator generatorName)
                    (.create .generator c.bus.queueName c.bus.topicName)).join .adapter
                      (.create .adapter c.bus.queueName c.bus.topicName) = builtBus c := by
                simp [Broker.join, Broker.leave, Broker.declare, Broker.create, builtBus]
              let initial : Scene (Broker Party) String := .initial clock (builtBus c)
              let m := (g.outbox.announce initial).metrics
              exact ⟨⟨a, g, ⟨0, clock, builtBus c,
                (m.notePool a.outbox.requests).notePool a.outbox.updates, #[]⟩⟩,
                by rw [← hbus]; rfl, rfl, rfl, rfl, _, rfl⟩

end Building

section Induction

variable {cs : List Call} {f₀ f : Feed}

/-- What calls, pieces of work and time keep holds after every run. -/
theorem Run.induction {P : List Call → Duo → Prop} (hr : Run cs f₀ f) {x₀ : Duo}
    (hx : f₀.deployment = x₀.deploy generatorName) (h₀ : P [] x₀)
    (hcall : ∀ {cs x} c, P cs x → P (cs ++ [c]) (x.call f₀.config.items c))
    (hpiece : ∀ {cs x y}, P cs x → x.Piece generatorName y → P cs y)
    (htime : ∀ {cs x} t, P cs x → x.Idle generatorName → x.scene.now ≤ t →
      (∀ wake ∈ x.adapter.wakes ++ x.generator.wakes, t ≤ wake) → P cs (x.atTime t)) :
    ∃ x : Duo, f = ⟨f₀.config, x.deploy generatorName⟩ ∧ P cs x := by
  induction hr with
  | refl f => exact ⟨x₀, by rw [← hx], h₀⟩
  | called c hr ih =>
      obtain ⟨x, rfl, h⟩ := ih hx hcall
      exact ⟨_, Duo.call_deploy _ x c, hcall c h⟩
  | worked hr hp ih =>
      obtain ⟨x, hf, h⟩ := ih hx hcall
      injection hf with hc hd
      cases Duo.deploy_injective hd
      exact ⟨_, by rw [hc], hpiece h hp⟩
  | waited t hr hs ht hw ih =>
      obtain ⟨x, rfl, h⟩ := ih hx hcall
      refine ⟨x.atTime t, rfl, htime t h (Duo.idle_of_step?_eq_none hs) ht ?_⟩
      simpa [Deployment.wakes, Duo.deploy] using hw

theorem Run.trans {cs' : List Call} {g : Feed} (h : Run cs f₀ f) (h' : Run cs' f g) :
    Run (cs ++ cs') f₀ g := by
  induction h' with
  | refl f => simpa using h
  | called c hr ih =>
      rw [← List.append_assoc]
      exact .called c (ih h)
  | worked hr hp ih => exact .worked (ih h) hp
  | waited t hr hs ht hw ih => exact .waited t (ih h) hs ht hw

/-- The broker keeps the two parties whatever happens. -/
theorem roster_call (items : List String) (x : Duo) (c : Call) :
    (x.call items c).bus.roster = x.bus.roster := by
  cases c with
  | start =>
      refine Duo.subscribeAll_induction (I := fun y => y.bus.roster = x.bus.roster)
        (fun item handle y hy => ?_) items ?_
      · exact (@Duo.move_follows generatorName (.subscribe item handle) y).1.trans hy
      · exact (Duo.startAdapter_follows _).1.trans (Duo.startGenerator_follows x).1
  | shutdown =>
      show ((x.bus.reset .adapter).reset (.generator generatorName)).roster = _
      rw [Broker.roster_reset, Broker.roster_reset]
  | subscribe item handle => exact (@Duo.move_follows generatorName _ x).1
  | unsubscribe item => exact (@Duo.move_follows generatorName _ x).1
  | available value => exact (@Duo.move_follows generatorName (.available value) x).1
  | clock seconds => exact (@Duo.move_follows generatorName (.clock seconds) x).1

/-- What a run leads to from a feed that was only just built. -/
theorem Run.joins {clock : Nat} {c : Config} (hb : build clock c = .ok f₀) (hr : Run cs f₀ f) :
    ∃ x : Duo, f = ⟨c, x.deploy generatorName⟩ ∧ x.bus.Joins generatorName := by
  obtain ⟨x₀, rfl, -, -, -, m, hs⟩ := exists_of_build hb
  refine hr.induction (P := fun _ x => x.bus.Joins generatorName) rfl ?_
    (fun c hj => hj.of_roster_eq (roster_call _ _ c)) (fun hj hp => hj.of_roster_eq hp.follows.1)
    (fun t hj _ _ _ => hj)
  rw [Duo.bus, hs]
  exact joins_builtBus c

/-- The pieces that a duo does in its own order are a run. -/
theorem Run.settled {c : Config} {x : Duo} (hj : x.bus.Joins generatorName)
    (hr : Run cs f₀ ⟨c, x.deploy generatorName⟩) :
    ∃ y : Duo, (x.deploy generatorName).settle = y.deploy generatorName ∧
      y.bus.Joins generatorName ∧ Run cs f₀ ⟨c, y.deploy generatorName⟩ := by
  refine @Timeline.settle_induction _ Deployment.timeline
    ( fun d => ∃ y : Duo, d = y.deploy generatorName ∧ y.bus.Joins generatorName ∧
      Run cs f₀ ⟨c, y.deploy generatorName⟩) ?_ _ ⟨x, rfl, hj, hr⟩
  rintro _ d ⟨y, rfl, hy, hrun⟩ hstep
  obtain ⟨z, hp, rfl⟩ := Duo.step?_cases hy hstep
  exact ⟨z, rfl, hy.of_roster_eq hp.follows.1, .worked hrun hp⟩

/-- The feed once its work of this instant is done. -/
def settle (f : Feed) : Feed := { f with deployment := f.deployment.settle }

/-- The feed at another time. -/
def atTime (t : Nat) (f : Feed) : Feed :=
  { f with deployment := Deployment.timeline.setNow t f.deployment }

/-- A feed that came from a built one may do its work in its own order. -/
theorem Run.settle {clock : Nat} {c : Config} {cs' : List Call} {g : Feed}
    (hb : build clock c = .ok f₀) (hr : Run cs f₀ f) (hr' : Run cs' f g) : Run cs' f g.settle := by
  obtain ⟨x, rfl, hj⟩ := (hr.trans hr').joins hb
  obtain ⟨y, hy, -, hrun⟩ := hr'.settled hj
  rw [Feed.settle, hy]
  exact hrun

/-- Time may pass up to the next timer once the work is done. -/
def mayWait (t : Nat) (f : Feed) : Bool :=
  f.deployment.step?.isNone && decide (f.deployment.scene.now ≤ t) &&
    f.deployment.wakes.all (fun wake => t ≤ wake)

theorem Run.wait {t : Nat} (hr : Run cs f₀ f) (h : f.mayWait t = true) :
    Run cs f₀ (f.atTime t) := by
  simp only [mayWait, Bool.and_eq_true, decide_eq_true_eq, List.all_eq_true,
    Option.isNone_iff_eq_none] at h
  exact .waited t hr h.1.1 h.1.2 h.2

end Induction

section Demonstration

/-- Settings of a small feed. -/
def demoConfig : Config := ⟨.standard, ⟨400⟩, ⟨50, 1000, some 7, some 1⟩, []⟩

/-- A small feed. -/
def demo : Feed := (build 0 demoConfig).toOption.getD ⟨demoConfig, .create 0 (.create 0)⟩

/-- The small feed after its start and its first heartbeat. -/
def demoFed : Feed := (((demo.call .start).settle).atTime 50).settle

theorem build_demo : build 0 demoConfig = .ok demo := rfl

theorem demoFed_run : Run [.start] demo demoFed := by
  have hstarted : Run [.start] demo ((demo.call .start).settle) :=
    .settle build_demo (.refl demo) (.called .start (.refl demo))
  exact .settle build_demo (.refl demo) (hstarted.wait (by decide +kernel))

end Demonstration

end Feed
end QuoteBridge
