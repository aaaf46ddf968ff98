import QuoteBridge.Proofs.Feed.Service
import QuoteBridge.Proofs.Outbox.Sends

/-!
# Accepted configurations

A configuration that passes every check can be built, unless its pools would be too large, and
started: the items that it subscribes to at the start are items.

**Results.**
* `Config.validate_eq_ok_iff`: the checks that a configuration passes.
* `Feed.exists_build_iff`, `Feed.build_of_most_lt`: whether a feed is built.
* `Feed.start_of_validate`: the start of a feed is not refused.
-/

namespace QuoteBridge

section Pools

theorem Adapter.exists_create_iff {H : Type} {ac : AdapterConfig} :
    (∃ a, (Adapter.create ac : Except PoolError (Adapter H)) = .ok a) ↔
      0 < ac.poolBatch ∧ ac.poolBatch ≤ Pool.most := by
  rw [← Outbox.exists_create_iff, Adapter.create]
  cases Outbox.create ac.poolBatch with
  | error e => simp [bind, Except.bind]
  | ok o => simp [bind, Except.bind, pure, Except.pure]

theorem Generator.exists_create_iff {gc : GeneratorConfig} :
    (∃ g, Generator.create gc = .ok g) ↔ 0 < gc.poolBatch ∧ gc.poolBatch ≤ Pool.most := by
  rw [← Outbox.exists_create_iff, Generator.create]
  cases Outbox.create gc.poolBatch with
  | error e => simp [bind, Except.bind]
  | ok o => simp [bind, Except.bind, pure, Except.pure]

/-- With too many bodies in a batch there is no generator. -/
theorem Generator.create_of_most_lt {gc : GeneratorConfig} (h : Pool.most < gc.poolBatch) :
    Generator.create gc = .error .capacityOverflow := by
  rw [Generator.create, Outbox.create_of_most_lt h]
  rfl

end Pools

/-- A subscription to an item is not refused. -/
theorem Adapter.subscribe_of_parse {β H : Type} {name : String} {i : Item}
    (hi : Item.parse name = .ok i) (handle : H) (a : Adapter H) (s : Scene β H) :
    ∃ id, (a.subscribe name handle s).1 = .ok id := by
  simp only [Adapter.subscribe, hi]
  split <;> exact ⟨_, rfl⟩

namespace Config

variable {c : Config}

/-- A configuration is accepted if it passes every check. -/
theorem validate_eq_ok_iff : c.validate = .ok () ↔
    c.checkUrl = .ok () ∧ c.checkNames = .ok () ∧
      checkPositive "bus.msg_pool_size" c.bus.poolSize = .ok () ∧
      checkPositive "generator.tick_interval_ms" c.generator.tickInterval = .ok () ∧
      c.checkHeartbeat = .ok () ∧ checkItems c.items = .ok () := by
  have hbind : ∀ e f : Except ConfigError Unit,
      (do e; f) = .ok () ↔ e = .ok () ∧ f = .ok () := by
    intro e f
    cases e <;> simp [bind, Except.bind]
  simp only [validate, hbind]

theorem checkPositive_eq_ok_iff {key : String} {n : Nat} :
    checkPositive key n = .ok () ↔ 0 < n := by
  unfold checkPositive
  split
  · rename_i hn
    simp [hn]
  · rename_i hn
    simp [Nat.pos_of_ne_zero hn]

theorem checkHeartbeat_eq_ok_iff : c.checkHeartbeat = .ok () ↔
    0 < c.generator.heartbeatInterval ∧
      c.generator.heartbeatInterval < c.adapter.watchdogInterval := by
  simp only [checkHeartbeat]
  split
  · rename_i hh
    simp [hh]
  · rename_i hh
    simp [hh]

theorem checkItems_cons_eq_ok_iff {i : String} {is : List String} :
    checkItems (i :: is) = .ok () ↔ (∃ item, Item.parse i = .ok item) ∧ checkItems is = .ok () := by
  rw [checkItems]
  cases hi : Item.parse i with
  | ok item => simp
  | error e => simp

/-- The intervals of a configuration that is accepted. -/
theorem steady_of_validate (hv : c.validate = .ok ()) : Duo.Steady c := by
  obtain ⟨-, -, -, htick, hheartbeat, -⟩ := validate_eq_ok_iff.mp hv
  obtain ⟨hpos, hbelow⟩ := checkHeartbeat_eq_ok_iff.mp hheartbeat
  exact ⟨hpos, hbelow, checkPositive_eq_ok_iff.mp htick⟩

/-- The heartbeats of a configuration that is accepted, if they are more often than timers end. -/
theorem brisk_of_validate (hv : c.validate = .ok ())
    (hh : c.generator.heartbeatInterval < Timer.longest) : Duo.Brisk c :=
  { steady_of_validate hv with within := hh }

end Config

namespace Feed

variable {c : Config}

/-- A feed is built just if its configuration is accepted and does not ask for too large pools. -/
theorem exists_build_iff {clock : Nat} :
    (∃ f, build clock c = .ok f) ↔ c.validate = .ok () ∧ c.bus.poolSize ≤ Pool.most := by
  constructor
  · rintro ⟨f, hf⟩
    obtain ⟨x, -, hv, ha, -⟩ := exists_of_build hf
    exact ⟨hv, (Adapter.exists_create_iff.mp ⟨x.adapter, ha⟩).2⟩
  · rintro ⟨hv, hle⟩
    obtain ⟨-, -, hpool, -⟩ := Config.validate_eq_ok_iff.mp hv
    have hpos : 0 < c.bus.poolSize := Config.checkPositive_eq_ok_iff.mp hpool
    obtain ⟨g, hg⟩ : ∃ g, Generator.create c.generatorConfig = .ok g :=
      Generator.exists_create_iff.mpr ⟨hpos, hle⟩
    obtain ⟨a, ha⟩ : ∃ a : Adapter String, Adapter.create c.adapterConfig = .ok a :=
      Adapter.exists_create_iff.mpr ⟨hpos, hle⟩
    simp only [build, hv, Deployment.addGenerator, Deployment.addAdapter, hg, ha, ofPool, bind,
      Except.bind, pure, Except.pure]
    exact ⟨_, rfl⟩

/-- Who asks for too large pools in an accepted configuration is stopped. -/
theorem build_of_most_lt (clock : Nat) (hv : c.validate = .ok ())
    (h : Pool.most < c.bus.poolSize) : build clock c = .error (.pool .capacityOverflow) := by
  have hg : Generator.create c.generatorConfig = .error .capacityOverflow :=
    Generator.create_of_most_lt h
  simp only [build, hv, Deployment.addGenerator, hg, ofPool, bind, Except.bind]

/-- The items of a configuration that is accepted are not refused. -/
theorem subscribeAll_of_checkItems {name : String} {items : List String}
    (hi : Config.checkItems items = .ok ()) (x : Duo) :
    (subscribeAll items (x.deploy name)).1 = .ok () := by
  induction items generalizing x with
  | nil => rfl
  | cons i is ih =>
      obtain ⟨⟨item, hitem⟩, hrest⟩ := Config.checkItems_cons_eq_ok_iff.mp hi
      have hsub : (x.deploy name).subscribe i i =
          ((x.adapter.subscribe i i x.scene).1,
            (x.act (x.adapter.subscribe i i x.scene).2).deploy name) := rfl
      obtain ⟨id, hok⟩ := Adapter.subscribe_of_parse hitem i x.adapter x.scene
      rw [subscribeAll, hsub, hok]
      exact ih hrest _

/-- The start of a feed of a configuration that is accepted is not refused. -/
theorem start_of_validate (hv : c.validate = .ok ()) (x : Duo) :
    (⟨c, x.deploy generatorName⟩ : Feed).start.1 = .ok () := by
  obtain ⟨-, -, -, -, -, hitems⟩ := Config.validate_eq_ok_iff.mp hv
  have hstarted : ((x.deploy generatorName).startGenerator generatorName).startAdapter =
      (x.startGenerator generatorName).startAdapter.deploy generatorName := by
    rw [Duo.startGenerator_deploy]
    rfl
  show (subscribeAll c.items _).1 = .ok ()
  rw [hstarted]
  exact subscribeAll_of_checkItems hitems _

end Feed

end QuoteBridge
