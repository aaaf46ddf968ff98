import QuoteBridge.Proofs.Feed.Accepted
import QuoteBridge.Proofs.Feed.Storm
import QuoteBridge.Proofs.Feed.Waiting

/-!
# No false alarm on a healthy bus

A feed whose broker is never taken down comes up at its first heartbeat and stays up: a heartbeat
comes between any two looks of the watchdog, however close the two intervals are.

**Input.**  Any configuration that is accepted, with heartbeats more often than timers end by
themselves; any start, any subscriptions and ends of them at any moments, fewer than 2⁶³ of them
after the start.  A producer run and a seed that are drawn are those of a configuration that names
them.

**Results.**
* `Feed.no_false_alarm`: up from the first heartbeat on, with one new producer run and no call of
  the consumer that tells of a missing producer.
* `Feed.false_alarms`: neither bound can be left out.
-/

namespace QuoteBridge

namespace Duo

variable {c : Config} {e : Epoch} {u calls : Nat} {x y : Duo}

/-- The feed waits for its first message or is up. -/
def Healthy (c : Config) (e : Epoch) (u calls : Nat) (x : Duo) : Prop :=
  (∃ next tick, x.Awaits c e u next tick) ∨ x.IsUp c e u calls

theorem Healthy.call (h : x.Healthy c e u calls) (items : List String) {k : Feed.Call}
    (hk : k.isCalm = true) : (x.call items k).Healthy c e u (calls + 1) := by
  rcases h with ⟨next, tick, h⟩ | h
  · exact .inl ⟨next, tick, h.call items hk⟩
  · exact .inr (h.call items hk)

theorem Healthy.piece (h : x.Healthy c e u calls) (hc : Brisk c) (hcalls : calls < UInt64.size / 2)
    (hp : x.Piece Feed.generatorName y) : y.Healthy c e u calls := by
  rcases h with ⟨next, tick, h⟩ | h
  · exact (h.piece hc.toSteady calls hp).imp_left (fun ⟨next, tick, h, _⟩ => ⟨next, tick, h⟩)
  · exact .inr (h.piece hc hcalls hp)

theorem Healthy.atTime (h : x.Healthy c e u calls) (hi : x.Idle Feed.generatorName) {t : Nat}
    (ht : x.scene.now ≤ t) (hw : ∀ wake ∈ x.adapter.wakes ++ x.generator.wakes, t ≤ wake) :
    (x.atTime t).Healthy c e u calls := by
  rcases h with ⟨next, tick, h⟩ | h
  · exact .inl ⟨next, tick, h.atTime hi ht hw⟩
  · exact .inr (h.atTime hi ht hw)

theorem status_ne_up {a : Adapter String} (h : a.epoch? = none) : a.status ≠ .up := by
  intro hup
  have hknown := epoch?_of_status hup
  rw [h] at hknown
  cases hknown

theorem Healthy.isUp (h : x.Healthy c e u calls) (hs : x.adapter.status = .up) :
    x.IsUp c e u calls := by
  rcases h with ⟨next, tick, h⟩ | h
  · exact absurd hs (status_ne_up h.unknown)
  · exact h

end Duo

namespace Feed

/-- Nothing was heard so far, and the instant `u` has not passed. -/
structure WaitsFor (u : Nat) (f : Feed) : Prop where
  status : f.status ≠ .up
  epoch : f.epoch? = none
  ahead : f.deployment.scene.now ≤ u
  unheard : ∀ t e b, .heard t e b ∉ f.deployment.scene.journal.toList

/-- The feed is up on a producer run since the instant `u`, when the first message was heard. -/
structure UpSince (u : Nat) (e : Epoch) (f : Feed) : Prop where
  status : f.status = .up
  epoch : f.epoch? = some e
  begun : u ≤ f.deployment.scene.now
  told : Note.Told u e f.deployment.scene.journal.toList

/-- The instant of the first heartbeat, if the feed is started now. -/
def firstHeartbeat (f : Feed) : Nat :=
  f.deployment.scene.now + f.config.generator.heartbeatInterval

variable {c : Config} {e : Epoch} {u : Nat} {x : Duo}

theorem waitsFor_of_awaits {next tick : Nat} (h : x.Awaits c e u next tick) :
    (⟨c, x.deploy generatorName⟩ : Feed).WaitsFor u :=
  ⟨Duo.status_ne_up h.unknown, h.unknown, h.now_le, h.unheard⟩

theorem upSince_of_isUp {calls : Nat} (h : x.IsUp c e u calls) :
    (⟨c, x.deploy generatorName⟩ : Feed).UpSince u e := by
  obtain ⟨next, tick, w, t₀, n, h⟩ := h
  have hknown : x.adapter.book.liveness.epoch = some e := h.known
  refine ⟨?_, h.known, h.begun, h.told⟩
  show x.adapter.book.liveness.status = .up
  rw [Liveness.status, h.connected, hknown]

variable {cs : List Call} {f₀ f g : Feed}

/-- What calm calls, pieces of work and time keep holds after every run of calm calls; the calls are
counted. -/
theorem Run.calm_induction {I : Nat → Duo → Prop} {n m : Nat}
    (hr : Run cs ⟨c, x.deploy generatorName⟩ f) (hcalm : cs.all Call.isCalm = true)
    (hm : n + cs.length ≤ m) (hx : I n x)
    (hcall : ∀ {n x k}, I n x → k.isCalm = true → I (n + 1) (x.call c.items k))
    (hpiece : ∀ {n x y}, n ≤ m → I n x → x.Piece generatorName y → I n y)
    (htime : ∀ {n x t}, I n x → x.Idle generatorName → x.scene.now ≤ t →
      (∀ wake ∈ x.adapter.wakes ++ x.generator.wakes, t ≤ wake) → I n (x.atTime t)) :
    ∃ y : Duo, f = ⟨c, y.deploy generatorName⟩ ∧ I (n + cs.length) y := by
  have hkept : ∃ y : Duo, f = ⟨c, y.deploy generatorName⟩ ∧
      (cs.all Call.isCalm = true → n + cs.length ≤ m → I (n + cs.length) y) := by
    refine hr.induction
      (P := fun cs y => cs.all Call.isCalm = true → n + cs.length ≤ m → I (n + cs.length) y)
      rfl (fun _ _ => hx) ?_ ?_ ?_
    · intro cs y k ih hk hle
      rw [List.all_append, Bool.and_eq_true] at hk
      rw [List.length_append, List.length_singleton, ← Nat.add_assoc] at hle ⊢
      exact hcall (ih hk.1 (Nat.le_of_succ_le hle)) (by simpa using hk.2)
    · intro cs y z ih hp hk hle
      exact hpiece hle (ih hk hle) hp
    · intro cs y t ih hi ht hw hk hle
      exact htime (ih hk hle) hi ht hw
  obtain ⟨y, hf, h⟩ := hkept
  exact ⟨y, hf, h hcalm hm⟩

/-- Before the start calls change nothing that the start depends on. -/
theorem Run.rests {clock : Nat} (hb : build clock c = .ok f₀) (hcalm : cs.all Call.isCalm = true)
    (hr : Run cs f₀ f) : ∃ x : Duo, f = ⟨c, x.deploy generatorName⟩ ∧ x.Rests c := by
  obtain ⟨x₀, rfl, -, ha, hg, m, hs⟩ := exists_of_build hb
  exact hr.calm_induction (I := fun _ x => x.Rests c) hcalm (Nat.le_refl (0 + cs.length))
    (Duo.rests_of_create ha hg hs) (fun h hk => h.call _ hk)
    (fun _ h hp => (h.piece hp).elim) (fun h _ _ _ => { h with })

section Counted

variable {calls : Nat} (hc : Duo.Brisk c) (hcalm : cs.all Call.isCalm = true)
  (hfew : calls + cs.length < UInt64.size / 2) (hr : Run cs ⟨c, x.deploy generatorName⟩ f)

include hc hcalm hfew hr

/-- A healthy feed stays healthy. -/
theorem Run.healthy (hx : x.Healthy c e u calls) :
    ∃ y : Duo, f = ⟨c, y.deploy generatorName⟩ ∧ y.Healthy c e u (calls + cs.length) :=
  hr.calm_induction hcalm (Nat.le_refl _) hx (fun h hk => h.call _ hk)
    (fun hle h hp => h.piece hc (Nat.lt_of_le_of_lt hle hfew) hp)
    (fun h hi ht hw => h.atTime hi ht hw)

/-- A feed that is up stays up. -/
theorem Run.isUp (hx : x.IsUp c e u calls) :
    ∃ y : Duo, f = ⟨c, y.deploy generatorName⟩ ∧ y.IsUp c e u (calls + cs.length) :=
  hr.calm_induction hcalm (Nat.le_refl _) hx (fun h hk => h.call _ hk)
    (fun hle h hp => h.piece hc (Nat.lt_of_le_of_lt hle hfew) hp)
    (fun h hi ht hw => h.atTime hi ht hw)

end Counted

/-- A healthy feed is up when its work is done at the first heartbeat or later. -/
theorem upSince_of_settled {calls : Nat} (hx : x.Healthy c e u calls)
    (hs : (x.deploy generatorName).step? = none) (hle : u ≤ x.scene.now) :
    (⟨c, x.deploy generatorName⟩ : Feed).UpSince u e := by
  rcases hx with ⟨next, tick, h⟩ | h
  · have hlt := (h.lt_of_idle (Duo.idle_of_step?_eq_none hs)).1
    exact absurd hle (Nat.not_le.mpr hlt)
  · exact upSince_of_isUp h

/-- No false alarm on a healthy bus.  A configuration that is accepted can be built, if its pools
are not too large, and, whatever was subscribed to before, started.  From then on, unless 2⁶³ calls
are made, the feed waits until its first heartbeat and can do nothing but come up at that instant;
when its work is done then or later it is up, and once it is up it stays up on the same producer
run. -/
theorem no_false_alarm (clock : Nat) (hv : c.validate = .ok ())
    (hh : c.generator.heartbeatInterval < Timer.longest) :
    (c.bus.poolSize ≤ Pool.most → ∃ f₀, build clock c = .ok f₀) ∧
    ∀ f₀, build clock c = .ok f₀ →
      ∀ cs₀ f₁, cs₀.all Call.isCalm = true → Run cs₀ f₀ f₁ →
        f₁.start.1 = .ok () ∧
        ∀ cs f, cs.all Call.isCalm = true → cs.length < UInt64.size / 2 → Run cs f₁.start.2 f →
          (f.WaitsFor f₁.firstHeartbeat ∧
              (∃ g, Run [] f g ∧ g.UpSince f₁.firstHeartbeat (c.generator.epoch.getD 0)) ∨
            f.UpSince f₁.firstHeartbeat (c.generator.epoch.getD 0)) ∧
          (f.deployment.step? = none → f₁.firstHeartbeat ≤ f.deployment.scene.now →
            f.UpSince f₁.firstHeartbeat (c.generator.epoch.getD 0)) ∧
          (f.UpSince f₁.firstHeartbeat (c.generator.epoch.getD 0) →
            ∀ cs' g, cs'.all Call.isCalm = true → (cs ++ cs').length < UInt64.size / 2 →
              Run cs' f g → g.UpSince f₁.firstHeartbeat (c.generator.epoch.getD 0)) := by
  have hc := Config.brisk_of_validate hv hh
  refine ⟨fun hle => exists_build_iff.mpr ⟨hv, hle⟩, fun f₀ hb cs₀ f₁ hcalm₀ hr₀ => ?_⟩
  obtain ⟨x₁, rfl, hrests⟩ := hr₀.rests hb hcalm₀
  refine ⟨start_of_validate hv x₁, fun cs f hcalm hfew hr => ?_⟩
  have hstarted : (⟨c, x₁.deploy generatorName⟩ : Feed).start.2 =
      ⟨c, (x₁.call c.items .start).deploy generatorName⟩ := Duo.call_deploy c x₁ .start
  rw [hstarted] at hr
  have hwaits := hrests.start hc.toSteady
  rw [hc.due_heartbeat] at hwaits
  rw [← Nat.zero_add cs.length] at hfew
  obtain ⟨x, rfl, hx⟩ := hr.healthy hc hcalm hfew (.inl hwaits)
  refine ⟨?_, upSince_of_settled hx, fun hup cs' g hcalm' hfew' hr' => ?_⟩
  · rcases hx with ⟨next, tick, h⟩ | h
    · obtain ⟨y, hy, hup⟩ := h.progress hc.toSteady 0 (.refl _)
      exact .inl ⟨waitsFor_of_awaits h, _, hy, upSince_of_isUp hup⟩
    · exact .inr (upSince_of_isUp h)
  · rw [List.length_append, ← Nat.zero_add cs.length] at hfew'
    obtain ⟨y, rfl, hy⟩ := hr'.isUp hc hcalm' hfew' (hx.isUp hup.status)
    exact upSince_of_isUp hy

section Demonstration

/-- Settings of a feed whose watchdog looks a millisecond after each heartbeat. -/
def closeConfig : Config := ⟨.standard, ⟨51⟩, ⟨50, 1000, some 7, some 1⟩, []⟩

/-- A feed with these settings. -/
def close : Feed := (build 0 closeConfig).toOption.getD ⟨closeConfig, .create 0 (.create 0)⟩

/-- The feed after a subscription that did not last until the start. -/
def closeAsked : Feed := (close.call (.subscribe "item3" "early")).call (.unsubscribe "item3")

/-- The feed after its first heartbeat. -/
def closeFed : Feed := ((closeAsked.start.2.settle).atTime 50).settle

/-- The feed after its next heartbeat, when the watchdog is about to look. -/
def closeWatched : Feed := ((closeFed.atTime 100).settle).atTime 101

theorem build_close : build 0 closeConfig = .ok close := rfl

theorem closeAsked_run :
    Run [.subscribe "item3" "early", .unsubscribe "item3"] close closeAsked :=
  .called (.unsubscribe "item3") (.called (.subscribe "item3" "early") (.refl close))

theorem closeStarted_run :
    Run [.subscribe "item3" "early", .unsubscribe "item3", .start] close closeAsked.start.2 :=
  closeAsked_run.called .start

theorem closeFed_run : Run [] closeAsked.start.2 closeFed := by
  have hsettled : Run [] closeAsked.start.2 closeAsked.start.2.settle :=
    .settle build_close closeStarted_run (.refl closeAsked.start.2)
  exact .settle build_close closeStarted_run (hsettled.wait (by decide +kernel))

theorem closeWatched_run : Run [] closeFed closeWatched := by
  have hfed := closeStarted_run.trans closeFed_run
  have hnext : Run [] closeFed ((closeFed.atTime 100).settle) :=
    .settle build_close hfed ((Run.refl closeFed).wait (by decide +kernel))
  exact hnext.wait (by decide +kernel)

/-- The feed is up at its first heartbeat, after the first look of its watchdog, and when another
item is subscribed to then. -/
theorem no_false_alarm_close :
    closeConfig.validate = .ok () ∧ closeConfig.generator.heartbeatInterval < Timer.longest ∧
      closeFed.UpSince 50 7 ∧
      (closeWatched.settle.call (.subscribe "item5" "late")).UpSince 50 7 := by
  have hvalid : closeConfig.validate = .ok () := rfl
  have hless : closeConfig.generator.heartbeatInterval < Timer.longest := by decide
  obtain ⟨-, hall⟩ := no_false_alarm 0 hvalid hless
  obtain ⟨-, hruns⟩ := hall close build_close _ closeAsked rfl closeAsked_run
  obtain ⟨-, hsettled, hstays⟩ := hruns [] closeFed rfl (by decide) closeFed_run
  have hidle : closeFed.deployment.step?.isNone = true := by decide +kernel
  have hup := hsettled (Option.isNone_iff_eq_none.mp hidle) (by decide +kernel)
  have hfed := closeStarted_run.trans closeFed_run
  have hlooked : Run [] closeFed closeWatched.settle :=
    .settle build_close hfed closeWatched_run
  exact ⟨hvalid, hless, hup,
    hstays hup _ _ rfl (by decide) (hlooked.called (.subscribe "item5" "late"))⟩

/-- Settings with more than thirty years between heartbeats. -/
def lateConfig : Config :=
  ⟨.standard, ⟨1099511627777⟩, ⟨1099511627776, 2199023255552, some 7, some 1⟩, []⟩

/-- A feed with these settings. -/
def late : Feed := (build 0 lateConfig).toOption.getD ⟨lateConfig, .create 0 (.create 0)⟩

/-- The feed after its start and thirty years. -/
def lateFed : Feed := (((late.call .start).settle).atTime Timer.longest).settle

theorem build_late : build 0 lateConfig = .ok late := rfl

theorem lateFed_run : Run [.start] late lateFed := by
  have hstarted : Run [.start] late ((late.call .start).settle) :=
    .settle build_late (.refl late) (.called .start (.refl late))
  exact .settle build_late (.refl late) (hstarted.wait (by decide +kernel))

/-- The feed with close intervals is poised at the first look of its watchdog. -/
theorem closeWatched_poised :
    ∃ x : Duo, closeWatched = ⟨closeConfig, x.deploy generatorName⟩ ∧
      ∃ e u w k, x.Poised closeConfig e u w [] [] [] k := by
  have hc : Duo.Brisk closeConfig := Config.brisk_of_validate rfl (by decide)
  obtain ⟨x₁, hasked, hrests⟩ := Run.rests build_close rfl closeAsked_run
  have hstarted : closeAsked.start.2 =
      ⟨closeConfig, (x₁.call [] .start).deploy generatorName⟩ := by
    rw [hasked]
    exact Duo.call_deploy closeConfig x₁ .start
  have hrun := closeFed_run.trans closeWatched_run
  rw [hstarted] at hrun
  have hfew : 0 + ([] ++ [] : List Call).length < UInt64.size / 2 := by decide
  obtain ⟨x, hx, hhealthy⟩ := hrun.healthy hc rfl hfew (.inl (hrests.start hc.toSteady))
  have hstate : closeWatched.deployment.adapter.map (fun a =>
      (a.status, a.watchdogs, a.book.pending)) = some (.up, [⟨7, 0, 101⟩], []) := by
    decide +kernel
  have hrequests : closeWatched.deployment.scene.bus.backlog (.generator generatorName) = [] := by
    decide +kernel
  have hmessages : closeWatched.deployment.scene.bus.backlog .adapter = [] := by decide +kernel
  have hnow : 101 ≤ closeWatched.deployment.scene.now := by decide +kernel
  rw [hx] at hstate hrequests hmessages hnow
  obtain ⟨hstatus, hwatchdogs, hpending⟩ :
      x.adapter.status = .up ∧ x.adapter.watchdogs = [⟨7, 0, 101⟩] ∧
        x.adapter.book.pending = [] := by
    simpa [Duo.deploy] using hstate
  exact ⟨x, hx, _, _, _, _,
    ⟨⟨_, hhealthy.isUp hstatus⟩, hwatchdogs, hnow, hpending, hrequests, hmessages, rfl⟩⟩

/-- Neither bound on an undisturbed feed can be left out.  Timers that end by themselves bring a
heartbeat before its time, and a storm of subscriptions brings the stall counter back to where it
was. -/
theorem false_alarms :
    (lateConfig.validate = .ok () ∧ Run [.start] late lateFed ∧ lateFed.status = .up ∧
      lateFed.deployment.scene.now < lateConfig.generator.heartbeatInterval) ∧
    (closeConfig.validate = .ok () ∧ Run [] closeAsked.start.2 closeWatched ∧
      closeWatched.status = .up ∧ ∃ cs f, cs.all Call.isCalm = true ∧ Run cs closeWatched f ∧
        f.status ≠ .up) := by
  refine ⟨⟨rfl, lateFed_run, by decide +kernel, by decide +kernel⟩,
    rfl, closeFed_run.trans closeWatched_run, by decide +kernel, ?_⟩
  obtain ⟨x, hx, e, u, w, k, hpoised⟩ := closeWatched_poised
  have hrefl : Run [] closeWatched ⟨closeConfig, x.deploy generatorName⟩ := hx ▸ .refl closeWatched
  obtain ⟨n, y, hr, hunknown⟩ := hpoised.drowned (Item.parse_name ⟨0⟩) "late" hrefl
  refine ⟨_, _, by simp [Call.isCalm], hr, ?_⟩
  exact Duo.status_ne_up hunknown

end Demonstration

end Feed

end QuoteBridge
