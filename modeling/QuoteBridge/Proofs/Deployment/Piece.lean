import QuoteBridge.Proofs.Deployment.Line

/-!
# Pieces of work

A deployment of one adapter and one generator, and the pieces of work that one of its steps can
be.

**Results.**
* `Duo.step?_cases`: a step is one of the ten pieces.
* `Duo.Idle`, `Duo.idle_of_step?_eq_none`: what a deployment without work looks like.
-/

namespace QuoteBridge

/-- An adapter, a generator, and the scene that they share. -/
structure Duo where
  adapter : Adapter String
  generator : Generator
  scene : Scene (Broker Party) String

namespace Duo

/-- The broker of the two. -/
abbrev bus (x : Duo) : Broker Party := x.scene.bus

/-- The deployment of the two, whose dispatch rounds are not held back. -/
def deploy (name : String) (x : Duo) : Deployment (Broker Party) :=
  ⟨x.scene, some x.adapter, [(name, x.generator)], false⟩

/-- Changes the adapter and the scene. -/
def act (x : Duo) (r : Adapter String × Scene (Broker Party) String) : Duo :=
  { x with adapter := r.1, scene := r.2 }

/-- Changes the generator and the scene. -/
def emit (x : Duo) (r : Generator × Scene (Broker Party) String) : Duo :=
  { x with generator := r.1, scene := r.2 }

/-- The scene behind a broker that has handed something out. -/
def taken (x : Duo) (b : Broker Party) : Scene (Broker Party) String := { x.scene with bus := b }

/-- One piece of work.  A place is one in a list of supervisors or watchdogs, from which on the
first one that is due goes on. -/
inductive Piece (name : String) (x : Duo) : Duo → Prop
  /-- A supervisor of the adapter goes on. -/
  | adapterDials (place : Nat) (r : Adapter String × Scene (Broker Party) String)
      (h : Adapter.superviseFrom (Broker.link .adapter 0) x.adapter x.scene
        (x.adapter.supervisors.take place) (x.adapter.supervisors.drop place) = some r) :
      Piece name x (x.act r)
  /-- A watchdog looks. -/
  | adapterLooks (place : Nat) (r : Adapter String × Scene (Broker Party) String)
      (h : Adapter.watchFrom x.adapter x.scene (x.adapter.watchdogs.take place)
        (x.adapter.watchdogs.drop place) = some r) :
      Piece name x (x.act r)
  /-- A supervisor of the generator goes on. -/
  | generatorDials (place : Nat) (r : Generator × Scene (Broker Party) String)
      (h : Generator.superviseFrom (Broker.link (.generator name) 0) x.generator x.scene
        (x.generator.supervisors.take place) (x.generator.supervisors.drop place) = some r) :
      Piece name x (x.emit r)
  /-- The generator publishes a heartbeat. -/
  | heartbeat (hs : List Nat)
      (h : Generator.postpone? x.scene.now x.generator.config.heartbeatInterval
        x.generator.heartbeats = some hs) :
      Piece name x (x.emit (Generator.publishHeartbeat (Broker.link (.generator name) 0)
        { x.generator with heartbeats := hs } x.scene))
  /-- The market trades. -/
  | trade (ts : List Nat)
      (h : Generator.postpone? x.scene.now x.generator.config.tickInterval
        x.generator.ticks = some ts) :
      Piece name x (x.emit (Generator.tick (Broker.link (.generator name) 0)
        { x.generator with ticks := ts } x.scene).2)
  /-- A dispatch round runs. -/
  | round (h : x.adapter.rounds ≠ 0) :
      Piece name x (x.act (Adapter.dispatchRound (Broker.link .adapter 0) x.adapter x.scene))
  /-- The adapter gets a payload. -/
  | adapterHears (p : Payload) (b : Broker Party)
      (h : x.bus.Gives .adapter (.payload p) b) :
      Piece name x (x.act (Adapter.receive p x.adapter (x.taken b)))
  /-- The adapter loses its session. -/
  | adapterLoses (b : Broker Party) (h : x.bus.Gives .adapter .lost b) :
      Piece name x (x.act (Adapter.transportError x.adapter (x.taken b)))
  /-- The generator gets a payload. -/
  | generatorHears (p : Payload) (b : Broker Party)
      (h : x.bus.Gives (.generator name) (.payload p) b) :
      Piece name x (x.emit (Generator.receive (Broker.link (.generator name) 0) p x.generator
        (x.taken b)))
  /-- The generator loses its session. -/
  | generatorLoses (b : Broker Party) (h : x.bus.Gives (.generator name) .lost b) :
      Piece name x (x.emit (x.generator.transportError, x.taken b))

/-- No piece of work is left. -/
structure Idle (name : String) (x : Duo) : Prop where
  adapter : x.adapter.step? (Broker.link .adapter 0) x.scene = none
  generator : x.generator.step? (Broker.link (.generator name) 0) x.scene = none
  rounds : x.adapter.rounds = 0
  bus : Carrier.next? x.bus = none

variable {name : String} {x : Duo}

theorem stepAdapter?_deploy (x : Duo) :
    (x.deploy name).stepAdapter? =
      (x.adapter.step? (Broker.link .adapter 0) x.scene).map (fun r => (x.act r).deploy name) :=
  rfl

theorem stepGenerators?_deploy (x : Duo) :
    Deployment.stepGenerators? x.scene [] [(name, x.generator)] =
      (x.generator.step? (Broker.link (.generator name) 0) x.scene).map
        (fun r => ([(name, r.1)], r.2)) := by
  have hl : (Carrier.link (.generator name) : Link (Broker Party)) =
      Broker.link (.generator name) 0 := rfl
  rw [Deployment.stepGenerators?, hl]
  cases Generator.step? (Broker.link (.generator name) 0) x.generator x.scene <;> rfl

/-- A step of the adapter is a turn of a supervisor or a look of a watchdog. -/
theorem piece_of_adapter_step? {r : Adapter String × Scene (Broker Party) String}
    (h : x.adapter.step? (Broker.link .adapter 0) x.scene = some r) :
    Piece name x (x.act r) := by
  unfold Adapter.step? at h
  split at h
  · rename_i r' hr
    cases h
    exact .adapterDials 0 r hr
  · split at h
    · exact .adapterLooks 0 r h
    · cases h

/-- A step of the generator is a turn of a supervisor, a heartbeat or a tick. -/
theorem piece_of_generator_step? {r : Generator × Scene (Broker Party) String}
    (h : x.generator.step? (Broker.link (.generator name) 0) x.scene = some r) :
    Piece name x (x.emit r) := by
  unfold Generator.step? at h
  split at h
  · rename_i r' hr
    cases h
    exact .generatorDials 0 r hr
  · split at h
    · rename_i hs hh
      cases h
      exact .heartbeat hs hh
    · split at h
      · rename_i ts ht
        cases h
        exact .trade ts ht
      · cases h

/-- What the bus hands out goes to one of the two. -/
theorem piece_of_stepBus? (hj : x.bus.Joins name) {d : Deployment (Broker Party)}
    (h : (x.deploy name).stepBus? = some d) : ∃ y, Piece name x y ∧ d = y.deploy name := by
  obtain ⟨⟨⟨p, i⟩, b⟩, hn, hd⟩ := Option.map_eq_some_iff.mp h
  obtain ⟨hon, hg⟩ := hj.gives_of_next? (show Carrier.next? x.bus = some ((p, i), b) from hn)
  subst hd
  rcases hon with rfl | rfl
  · cases i with
    | payload p => exact ⟨_, .adapterHears p b hg, rfl⟩
    | lost => exact ⟨_, .adapterLoses b hg, rfl⟩
  · cases i with
    | payload p =>
        refine ⟨_, .generatorHears p b hg, ?_⟩
        simp [deploy, Deployment.receive, Deployment.withGenerator, Deployment.generator?,
          Deployment.setGenerator, emit, taken]
        exact ⟨rfl, rfl⟩
    | lost =>
        refine ⟨_, .generatorLoses b hg, ?_⟩
        simp [deploy, Deployment.receive, Deployment.withGenerator, Deployment.generator?,
          Deployment.setGenerator, emit, taken]

theorem stepRound?_deploy (x : Duo) :
    (x.deploy name).stepRound? =
      if x.adapter.rounds = 0 then none
      else some ((x.act (Adapter.dispatchRound (Broker.link .adapter 0) x.adapter
        x.scene)).deploy name) := by
  by_cases hr : x.adapter.rounds = 0
  · simp [Deployment.stepRound?, deploy, hr]
  · simp only [Deployment.stepRound?, deploy, hr, Bool.false_eq_true, or_self, if_false]
    rfl

/-- A step is one of the ten pieces. -/
theorem step?_cases (hj : x.bus.Joins name) {d : Deployment (Broker Party)}
    (h : (x.deploy name).step? = some d) : ∃ y, Piece name x y ∧ d = y.deploy name := by
  unfold Deployment.step? at h
  split at h
  · rename_i d' hbus
    cases h
    exact piece_of_stepBus? hj hbus
  · split at h
    · rename_i d' hadapter
      cases h
      rw [stepAdapter?_deploy] at hadapter
      obtain ⟨r, hr, rfl⟩ := Option.map_eq_some_iff.mp hadapter
      exact ⟨_, piece_of_adapter_step? hr, rfl⟩
    · split at h
      · rename_i r hgenerator
        cases h
        have hstep := (stepGenerators?_deploy x).symm.trans hgenerator
        obtain ⟨r, hr, rfl⟩ := Option.map_eq_some_iff.mp hstep
        exact ⟨_, piece_of_generator_step? hr, rfl⟩
      · rw [stepRound?_deploy] at h
        split at h
        · cases h
        · rename_i hr
          cases h
          exact ⟨_, .round hr, rfl⟩

/-- A deployment that does not step has no work left. -/
theorem idle_of_step?_eq_none (h : (x.deploy name).step? = none) : Idle name x := by
  unfold Deployment.step? at h
  split at h
  · cases h
  · rename_i hbus
    split at h
    · cases h
    · rename_i hadapter
      split at h
      · cases h
      · rename_i hgenerator
        rw [stepAdapter?_deploy] at hadapter
        have hstep := (stepGenerators?_deploy x).symm.trans hgenerator
        refine ⟨Option.map_eq_none_iff.mp hadapter, Option.map_eq_none_iff.mp hstep, ?_,
          Option.map_eq_none_iff.mp hbus⟩
        rw [stepRound?_deploy] at h
        split at h
        · rename_i hr
          exact hr
        · cases h

end Duo

end QuoteBridge
