import QuoteBridge.Proofs.Adapter.Run

/-!
# Detection of a silent producer

In virtual time every timer rings at its instant.  Then a known producer run is never without a
watchdog, and a run that falls silent is forgotten within two intervals.

**Input.**  An adapter over any link that is held by something.  Calls, messages, losses, requests
and turns come at any instant and in any order; time moves on once the adapter's work is done, and
never past one of its timers.

**Invariant.**  One of the known run's watchdogs has a message of that run at most one interval
before its last look, and it has another one since if its counter moved.

**Results.**
* `Adapter.guarded_of_timed`: the invariant holds in every run.
* `Adapter.detected_in_time`: a known run has an open session, a watchdog that looks within an
  interval, and a message less than two intervals ago.
-/

namespace QuoteBridge
namespace Adapter

variable {β H : Type} {link : Link β}

section Running

/-- Runs of an adapter whose timers are punctual.  An act takes no time, and nothing happens to an
adapter that is gone. -/
inductive Timed (link : Link β) : Adapter H × Scene β H → Prop
  | fresh {x : Adapter H × Scene β H} (hx : IsFresh x) : Timed link x
  | acted (act : Act β H) {x : Adapter H × Scene β H} (h : Timed link x)
      (hp : x.1.isPresent = true) (hn : (perform link act x).2.now = x.2.now) :
      Timed link (perform link act x)
  | waited (t : Nat) {x : Adapter H × Scene β H} (h : Timed link x)
      (hs : x.1.step? link x.2 = none) (ht : x.2.now ≤ t) (hw : ∀ wake ∈ x.1.wakes, t ≤ wake) :
      Timed link (x.1, { x.2 with now := t })

end Running

section Steadiness

/-- A step that changes neither the watchdogs nor the time, and leaves the known run with its
counter, unless it is forgotten. -/
structure Steady (x y : Adapter H × Scene β H) : Prop where
  config : y.1.config = x.1.config
  watchdogs : y.1.watchdogs = x.1.watchdogs
  now : y.2.now = x.2.now
  journal : ∃ ns, y.2.journal.toList = x.2.journal.toList ++ ns
  liveness : y.1.epoch? = none ∨ y.1.book.liveness = x.1.book.liveness ∨
    y.1.book.liveness = x.1.book.liveness.setConnected true

variable {x y z : Adapter H × Scene β H}

theorem Steady.same (hc : y.1.config = x.1.config) (hw : y.1.watchdogs = x.1.watchdogs)
    (hn : y.2.now = x.2.now) (hj : y.2.journal = x.2.journal)
    (hl : y.1.book.liveness = x.1.book.liveness) : Steady x y :=
  ⟨hc, hw, hn, ⟨[], by rw [hj, List.append_nil]⟩, Or.inr (Or.inl hl)⟩

theorem Steady.refl (x : Adapter H × Scene β H) : Steady x x := .same rfl rfl rfl rfl rfl

theorem Steady.trans (h : Steady x y) (h' : Steady y z) : Steady x z := by
  obtain ⟨ns, hj⟩ := h.journal
  obtain ⟨ns', hj'⟩ := h'.journal
  refine ⟨h'.config.trans h.config, h'.watchdogs.trans h.watchdogs, h'.now.trans h.now,
    ⟨ns ++ ns', by rw [hj', hj, List.append_assoc]⟩, ?_⟩
  rcases h'.liveness with hnone | hsame | hset
  · exact Or.inl hnone
  · unfold epoch?
    rw [hsame]
    exact h.liveness
  · unfold epoch?
    rw [hset]
    rcases h.liveness with hnone | hsame' | hset'
    · exact Or.inl hnone
    · exact Or.inr (Or.inr (by rw [hsame']))
    · exact Or.inr (Or.inr (by rw [hset']; rfl))

theorem retireIfGone_steady (a : Adapter H) (s : Scene β H) :
    Steady (a, s) (a.retireIfGone, s) := by
  unfold retireIfGone
  split
  · exact .same rfl rfl rfl rfl rfl
  · exact .same rfl rfl rfl rfl rfl

theorem release_steady (a : Adapter H) (s : Scene β H) : Steady (a, s) (a.release, s) := by
  have hmark : Steady (a, s) ({ a with released := true }, s) := .same rfl rfl rfl rfl rfl
  exact hmark.trans (retireIfGone_steady _ s)

theorem endRound_steady (a : Adapter H) (s : Scene β H) : Steady (a, s) (a.endRound, s) := by
  have hdone : Steady (a, s) ({ a with rounds := a.rounds - 1 }, s) := .same rfl rfl rfl rfl rfl
  exact hdone.trans (retireIfGone_steady _ s)

theorem subscribe_steady (name : String) (handle : H) (a : Adapter H) (s : Scene β H) :
    Steady (a, s) (subscribe name handle a s).2 := by
  generalize hr : (subscribe name handle a s).2 = r
  cases hr ▸ subscribe_effect name handle a s with
  | refused => exact .refl _
  | requested i handle he =>
      exact ⟨rfl, rfl, rfl, ⟨_, Array.toList_push⟩, Or.inr (Or.inl rfl)⟩
  | idle i handle subs m notes he hc =>
      exact ⟨rfl, rfl, rfl, ⟨.subscribed i a.book.nextId :: notes.toList, by simp⟩,
        Or.inr (Or.inl rfl)⟩

theorem unsubscribe_steady (name : String) (a : Adapter H) (s : Scene β H) :
    Steady (a, s) ((unsubscribe name a).2, s) := by
  generalize hr : (unsubscribe name a).2 = r
  cases hr ▸ unsubscribe_effect name a with
  | refused => exact .refl _
  | requested i sub he hs => exact .same rfl rfl rfl rfl rfl
  | idle i he => exact .same rfl rfl rfl rfl rfl

theorem transportError_steady (a : Adapter H) (s : Scene β H) :
    Steady (a, s) (transportError a s) := by
  obtain ⟨subs, m, notes, -, h⟩ := transportError_effect a s
  rw [h]
  exact ⟨rfl, rfl, rfl, ⟨notes.toList, Array.toList_append⟩, Or.inl rfl⟩

theorem sendNext_steady (a : Adapter H) (s : Scene β H) : Steady (a, s) (sendNext link a s) := by
  unfold sendNext Book.pop
  cases a.book.pending with
  | nil => exact .refl _
  | cons r rs =>
      dsimp only [dispatchOne]
      split
      · exact .same rfl rfl rfl rfl rfl
      · exact .same rfl rfl rfl rfl rfl

theorem superviseFrom_steady {a : Adapter H} {s : Scene β H} {r : Adapter H × Scene β H}
    {vs done : List Supervisor} (h : superviseFrom link a s done vs = some r) :
    Steady (a, s) r := by
  obtain ⟨v, others, left, w, hw, rfl⟩ := superviseFrom_turn h
  have hturn : Steady (a, s) w := by
    rw [hw]
    exact Supervisor.turn_induction (dialer link) (P := Steady (a, s))
      (fun w h => h.trans (.same rfl rfl rfl rfl rfl))
      (fun w h => h.trans (.same rfl rfl rfl rfl rfl))
      (fun w h => h.trans (retireIfGone_steady w.1 w.2))
      (fun _ w h => h.trans (.same rfl rfl rfl rfl rfl))
      (fun w h => h.trans ⟨rfl, rfl, rfl, ⟨[], (List.append_nil _).symm⟩, Or.inr (Or.inr rfl)⟩)
      s.now v (.same rfl rfl rfl rfl rfl)
  exact hturn.trans (.same rfl rfl rfl rfl rfl)

end Steadiness

section Guards

/-- The notes tell of a message of a producer run since some time. -/
def HeardSince (e : Epoch) (start : Nat) (ns : List (Note H)) : Prop :=
  ∃ t b, .heard t e b ∈ ns ∧ start ≤ t

theorem HeardSince.append {e : Epoch} {start : Nat} {ns : List (Note H)}
    (h : HeardSince e start ns) (ns' : List (Note H)) : HeardSince e start (ns ++ ns') := by
  obtain ⟨t, b, hm, ht⟩ := h
  exact ⟨t, b, List.mem_append_left ns' hm, ht⟩

/-- A watchdog looked last at some time, with a message of its run at most an interval before; if
the counter moved since, there was a message since. -/
structure Guards (x : Adapter H × Scene β H) (w : Watchdog) (start : Nat) : Prop where
  wake : w.wake = Timer.due start x.1.config.watchdogInterval
  past : start ≤ x.2.now
  recent : HeardSince w.epoch (start - x.1.silence) x.2.journal.toList
  moved : x.1.book.liveness.stallCounter ≠ w.lastSeen →
    HeardSince w.epoch start x.2.journal.toList

/-- A known run has an open session and a watchdog that guards it, and no watchdog is late. -/
structure Guarded (x : Adapter H × Scene β H) : Prop where
  linked : x.1.epoch? ≠ none → x.1.book.liveness.busConnected = true
  early : ∀ w ∈ x.1.watchdogs, x.2.now ≤ w.wake
  guard : ∀ {e}, x.1.epoch? = some e → ∃ w ∈ x.1.watchdogs, w.epoch = e ∧ ∃ start, Guards x w start

variable {x y : Adapter H × Scene β H} {e : Epoch}

/-- What is known of a guard stays so as long as the counter stays or a message came just now. -/
theorem Guards.keep {w : Watchdog} {start : Nat} (h : Guards x w start)
    (hc : y.1.config = x.1.config) (hn : x.2.now ≤ y.2.now)
    (hj : ∃ ns, y.2.journal.toList = x.2.journal.toList ++ ns)
    (hm : y.1.book.liveness.stallCounter = x.1.book.liveness.stallCounter ∨
      HeardSince w.epoch start y.2.journal.toList) : Guards y w start := by
  obtain ⟨ns, hj⟩ := hj
  refine ⟨by rw [hc]; exact h.wake, Nat.le_trans h.past hn, ?_, fun hmoved => ?_⟩
  · rw [silence, hc, hj]
    exact h.recent.append ns
  · rcases hm with hsame | hheard
    · rw [hj]
      exact (h.moved (by rw [← hsame]; exact hmoved)).append ns
    · exact hheard

/-- A run without a known producer needs no guard. -/
theorem Guarded.ofNone (hnone : y.1.epoch? = none)
    (hearly : ∀ w ∈ y.1.watchdogs, y.2.now ≤ w.wake) :
    Guarded y := by
  refine ⟨fun h => absurd hnone h, hearly, fun he => ?_⟩
  rw [hnone] at he
  cases he

theorem Guarded.steady (h : Guarded x) (hs : Steady x y) : Guarded y := by
  have hearly : ∀ w ∈ y.1.watchdogs, y.2.now ≤ w.wake := by
    rw [hs.watchdogs, hs.now]
    exact h.early
  have hkept : ∀ l : Liveness, y.1.book.liveness = l → l.epoch = x.1.epoch? →
      l.stallCounter = x.1.book.liveness.stallCounter →
        (x.1.book.liveness.busConnected = true → l.busConnected = true) → Guarded y := by
    rintro _ rfl hepoch hcount hbus
    refine ⟨fun hne => hbus (h.linked (hepoch ▸ hne)), hearly, fun {e} he => ?_⟩
    obtain ⟨w, hw, hwe, start, hg⟩ := h.guard (hepoch.symm.trans he)
    exact ⟨w, hs.watchdogs ▸ hw, hwe, start,
      hg.keep hs.config (Nat.le_of_eq hs.now.symm) hs.journal (Or.inl hcount)⟩
  rcases hs.liveness with hnone | hsame | hset
  · exact .ofNone hnone hearly
  · exact hkept _ hsame rfl rfl id
  · exact hkept _ hset rfl rfl (fun _ => rfl)

/-- A new run gets a watchdog that starts with the message that brought it. -/
theorem Guarded.heardNew (h : Guarded x) (hc : y.1.config = x.1.config)
    (he : y.1.epoch? = some e) (hl : y.1.book.liveness.busConnected = true)
    (hs : y.1.book.liveness.stallCounter = 0) (hn : y.2.now = x.2.now)
    (hj : y.2.journal.toList = x.2.journal.toList ++ [.heard x.2.now e true])
    (hw : y.1.watchdogs =
      x.1.watchdogs ++ [⟨e, 0, Timer.due x.2.now x.1.config.watchdogInterval⟩]) : Guarded y := by
  refine ⟨fun _ => hl, fun w hm => ?_, fun {e'} he' => ?_⟩
  · rw [hw, List.mem_append, List.mem_singleton] at hm
    rw [hn]
    rcases hm with hm | rfl
    · exact h.early w hm
    · exact Nat.le_add_right _ _
  · cases he.symm.trans he'
    refine ⟨⟨e, 0, Timer.due x.2.now x.1.config.watchdogInterval⟩, by simp [hw], rfl, x.2.now,
      by rw [hc], Nat.le_of_eq hn.symm, ?_, fun hmoved => absurd hs hmoved⟩
    exact ⟨x.2.now, true, by simp [hj], Nat.sub_le _ _⟩

/-- A message of the known run is news for its guard. -/
theorem Guarded.heardKnown (h : Guarded x) (hold : x.1.epoch? = some e)
    (hc : y.1.config = x.1.config) (he : y.1.epoch? = some e)
    (hl : y.1.book.liveness.busConnected = true) (hn : y.2.now = x.2.now) (ns : List (Note H))
    (hj : y.2.journal.toList = x.2.journal.toList ++ .heard x.2.now e false :: ns)
    (hw : y.1.watchdogs = x.1.watchdogs) : Guarded y := by
  refine ⟨fun _ => hl, fun w hm => ?_, fun {e'} he' => ?_⟩
  · rw [hn]
    exact h.early w (hw ▸ hm)
  · cases he.symm.trans he'
    obtain ⟨w, hm, rfl, start, hg⟩ := h.guard hold
    exact ⟨w, hw ▸ hm, rfl, start, hg.keep hc (Nat.le_of_eq hn.symm) ⟨_, hj⟩
      (Or.inr ⟨x.2.now, false, by simp [hj], hg.past⟩)⟩

theorem Guarded.receive (h : Guarded x) (p : Payload) : Guarded (receive p x.1 x.2) := by
  obtain ⟨a, s⟩ := x
  dsimp only
  generalize hr : Adapter.receive p a s = r
  cases hr ▸ receive_effect p a s with
  | ignored m hm => exact h.steady (.same rfl rfl rfl rfl rfl)
  | anew msg m hm he =>
      have hl : a.book.liveness.epoch ≠ some msg.epoch := he
      refine h.heardNew rfl (epoch_renewed msg.epoch a.book) ?_ ?_ rfl Array.toList_push rfl
      · simp [renewed, Book.observe, Liveness.observe, Book.resubscribeAll, hl]
      · simp [renewed, Book.observe, Liveness.observe, Book.resubscribeAll, hl]
  | known msg m hm he hu =>
      refine h.heardKnown he rfl (epoch_counted msg.epoch a.book) ?_ rfl [] Array.toList_push rfl
      have hl : a.book.liveness.epoch = some msg.epoch := he
      simp [counted, Book.observe, Liveness.observe, hl]
  | delivered u sub m hm he hsub hid =>
      refine h.heardKnown he rfl (epoch_counted u.epoch a.book) ?_ rfl
        [.called ⟨s.now, u.item, sub.id, if sub.snapshotSent then .delta else .snapshot,
          sub.handle, u.fields, !sub.snapshotSent⟩] (by simp) rfl
      have hl : a.book.liveness.epoch = some u.epoch := he
      simp [counted, Book.observe, Liveness.observe, Book.setSnapshotSent, hl]

/-- A punctual look.  The guard goes on if its counter moved, and only other watchdogs retire. -/
theorem Guarded.look (h : Guarded x) {r : Adapter H × Scene β H} {ws done : List Watchdog}
    (hws : x.1.watchdogs = done ++ ws) (hr : watchFrom x.1 x.2 done ws = some r) : Guarded r := by
  obtain ⟨pre, v, post, rfl, hdue, rfl⟩ := watchFrom_cases hr
  have hmem : ∀ w, w ∈ x.1.watchdogs ↔ w = v ∨ w ∈ done ++ pre ++ post := by
    intro w
    simp only [hws, List.mem_append, List.mem_cons]
    grind
  have hkept : ∀ w ∈ done ++ pre ++ post, w ∈ x.1.watchdogs :=
    fun w hw => (hmem w).mpr (Or.inr hw)
  have hother : ∀ {e w ws'}, w ∈ x.1.watchdogs → w.epoch = e → (∃ start, Guards x w start) →
      w ∈ ws' → ∃ w ∈ ws', w.epoch = e ∧
        ∃ start, Guards ({ x.1 with watchdogs := ws' }, x.2) w start := by
    rintro e w ws' - hwe ⟨start, hg⟩ hw
    exact ⟨w, hw, hwe, start, hg.wake, hg.past, hg.recent, hg.moved⟩
  generalize hl : Adapter.look v x.1 x.2 = l
  cases hl ▸ look_effect v x.1 x.2 with
  | silent he hbus hc =>
      obtain ⟨subs, m, notes, -, hd⟩ := degrade_effect .producer x.1 x.2
      rw [hd]
      exact .ofNone rfl (fun w hw => h.early w (hkept w (by simpa using hw)))
  | moved he hbus hc =>
      have hnow : v.wake = x.2.now := Nat.le_antisymm hdue (h.early v (by simp [hws]))
      refine ⟨fun _ => hbus, fun w hw => ?_, fun {e'} he' => ?_⟩
      · simp only [Option.toList, List.append_assoc, List.mem_append, List.mem_singleton] at hw
        rcases hw with hw | hw | rfl | hw
        · exact h.early w (hkept w (by simp [hw]))
        · exact h.early w (hkept w (by simp [hw]))
        · exact Nat.le_add_right _ _
        · exact h.early w (hkept w (by simp [hw]))
      · obtain ⟨w, hw, hwe, start, hg⟩ := h.guard he'
        rcases (hmem w).mp hw with rfl | hin
        · have hend : w.wake = start + x.1.silence := hg.wake
          have hstart : x.2.now - x.1.silence = start := by omega
          have hrecent : HeardSince w.epoch (x.2.now - x.1.silence) x.2.journal.toList := by
            rw [hstart]
            exact hg.moved hc
          exact ⟨_, List.mem_append_left _ (List.mem_append_right _ (List.mem_singleton.mpr rfl)),
            hwe, x.2.now, rfl, Nat.le_refl _, hrecent, fun hne => absurd rfl hne⟩
        · refine hother hw hwe ⟨start, hg⟩ ?_
          simp only [List.mem_append] at hin ⊢
          exact hin.imp_left Or.inl
  | retired hunknown =>
      refine ⟨h.linked, fun w hw => h.early w (hkept w (by simpa using hw)), fun {e'} he' => ?_⟩
      obtain ⟨w, hw, hwe, start, hg⟩ := h.guard he'
      rcases (hmem w).mp hw with rfl | hin
      · have hl : x.1.epoch? = some e' := he'
        exact absurd ⟨hwe ▸ hl, h.linked (by simp [hl])⟩ hunknown
      · exact hother hw hwe ⟨start, hg⟩ (by simpa using hin)

end Guards

section Reaching

variable {x : Adapter H × Scene β H}

theorem Guarded.perform (h : Guarded x) (act : Act β H)
    (hn : (perform link act x).2.now = x.2.now) : Guarded (perform link act x) := by
  obtain ⟨a, s⟩ := x
  cases act with
  | start => exact h.steady (.same rfl rfl rfl rfl rfl)
  | subscribe name handle => exact h.steady (subscribe_steady name handle a s)
  | unsubscribe name => exact h.steady (unsubscribe_steady name a s)
  | receive p => exact h.receive p
  | lose => exact h.steady (transportError_steady a s)
  | send => exact h.steady (sendNext_steady a s)
  | endRound => exact h.steady (endRound_steady a s)
  | dial place =>
      simp only [Adapter.perform]
      cases hr : superviseFrom link a s (a.supervisors.take place) (a.supervisors.drop place) with
      | none => exact h
      | some r => exact h.steady (superviseFrom_steady hr)
  | look place =>
      simp only [Adapter.perform]
      cases hr : watchFrom a s (a.watchdogs.take place) (a.watchdogs.drop place) with
      | none => exact h
      | some r => exact h.look (List.take_append_drop place a.watchdogs).symm hr
  | shutdown =>
      exact h.steady ⟨rfl, rfl, rfl, ⟨[], (List.append_nil _).symm⟩, Or.inl rfl⟩
  | release => exact h.steady (release_steady a s)
  | wait span => exact h.steady (.same rfl rfl hn rfl rfl)
  | changeBus b => exact h.steady (.same rfl rfl rfl rfl rfl)

/-- Time that stops at every timer leaves the guards in place. -/
theorem Guarded.wait (h : Guarded x) (hp : x.1.isPresent = true) {t : Nat} (ht : x.2.now ≤ t)
    (hw : ∀ wake ∈ x.1.wakes, t ≤ wake) : Guarded (x.1, { x.2 with now := t }) := by
  refine ⟨h.linked, fun w hm => hw w.wake ?_, fun {e} he => ?_⟩
  · rw [wakes, if_pos hp]
    exact List.mem_append_right _ (List.mem_map_of_mem hm)
  · obtain ⟨w, hm, hwe, start, hg⟩ := h.guard he
    exact ⟨w, hm, hwe, start,
      hg.keep rfl ht ⟨[], (List.append_nil _).symm⟩ (Or.inl rfl)⟩

theorem guarded_of_timed (h : Timed link x) (hp : x.1.isPresent = true) : Guarded x := by
  induction h with
  | fresh hx =>
      obtain ⟨c, hc⟩ := hx.created
      obtain ⟨o, ho⟩ := eq_of_create hc
      exact .ofNone (by rw [ho]; rfl) (fun w hw => by rw [ho] at hw; cases hw)
  | acted act h hpresent hn ih => exact (ih hpresent).perform act hn
  | waited t h hs ht hw ih => exact (ih hp).wait hp ht hw

theorem up_iff_of_linked {a : Adapter H}
    (h : a.epoch? ≠ none → a.book.liveness.busConnected = true) :
    a.book.liveness.isFeedUp = true ↔ a.status = .up := by
  unfold Liveness.isFeedUp Adapter.status Liveness.status
  cases he : a.book.liveness.epoch with
  | none => cases a.book.liveness.busConnected <;> simp
  | some e =>
      rw [h (by simp [epoch?, he])]
      simp

theorem watchFrom_eq_none {a : Adapter H} {s : Scene β H} {ws done : List Watchdog}
    (h : watchFrom a s done ws = none) : ∀ w ∈ ws, s.now < w.wake := by
  induction ws generalizing done with
  | nil => exact fun w hw => by cases hw
  | cons v ws ih =>
      by_cases hv : v.wake ≤ s.now
      · simp [watchFrom, hv] at h
      · simp only [watchFrom, hv, if_false] at h
        intro w hw
        rcases List.mem_cons.mp hw with rfl | hw
        · exact Nat.lt_of_not_le hv
        · exact ih h w hw

/-- When an adapter's work is done, its watchdogs have yet to look. -/
theorem lt_wake_of_settled {a : Adapter H} {s : Scene β H} (hp : a.isPresent = true)
    (h : a.step? link s = none) {w : Watchdog} (hw : w ∈ a.watchdogs) : s.now < w.wake := by
  unfold step? at h
  rw [if_pos hp] at h
  split at h
  · cases h
  · exact watchFrom_eq_none h w hw

/-- The feed is up just if a run is known.  A known run has an open session and a watchdog that
looks within an interval, and when the adapter's work is done the run's last message came less than
two intervals ago. -/
theorem detected_in_time {a : Adapter H} {s : Scene β H} (h : Timed link (a, s))
    (hp : a.isPresent = true) :
    (a.book.liveness.isFeedUp = true ↔ a.status = .up) ∧
      ∀ e, a.epoch? = some e →
        a.book.liveness.busConnected = true ∧
          (∃ w ∈ a.watchdogs, w.epoch = e ∧ s.now ≤ w.wake ∧
            w.wake ≤ s.now + a.config.watchdogInterval) ∧
          (a.step? link s = none → ∃ t b, .heard t e b ∈ s.journal.toList ∧
            s.now < t + 2 * a.config.watchdogInterval) := by
  have hg := guarded_of_timed h hp
  have hsilence : a.silence ≤ a.config.watchdogInterval := Nat.min_le_left _ _
  refine ⟨up_iff_of_linked hg.linked, fun e he => ?_⟩
  obtain ⟨w, hw, rfl, start, hstart⟩ := hg.guard he
  have hwake : w.wake = start + a.silence := hstart.wake
  have hpast : start ≤ s.now := hstart.past
  refine ⟨hg.linked (by simp [he]), ⟨w, hw, rfl, hg.early w hw, by omega⟩, fun hs => ?_⟩
  have hlater : s.now < w.wake := lt_wake_of_settled hp hs hw
  obtain ⟨t, b, hm, ht⟩ := hstart.recent
  have hrecent : start - a.silence ≤ t := ht
  exact ⟨t, b, hm, by omega⟩

end Reaching

section Demonstration

/-- A heartbeat comes at once and another one before the watchdog's first look. -/
def demoHeard : Recorded := waitedTo 300 (heard (waitedTo 290 (heard demoConnected)))

/-- The watchdog has looked, nothing more was heard, and the second look is near. -/
def demoGuarded : Recorded := waitedTo 580 (perform Recorder.link (.look 0) demoHeard)

theorem waitedTo_timed (t : Nat) {x : Recorded} (h : Timed Recorder.link x)
    (hs : (x.1.step? Recorder.link x.2).isNone = true) (ht : x.2.now ≤ t)
    (hw : ∀ wake ∈ x.1.wakes, t ≤ wake) : Timed Recorder.link (waitedTo t x) := by
  have hmax : max x.2.now t = t := Nat.max_eq_right ht
  rw [waitedTo, hmax]
  exact .waited t h (Option.isNone_iff_eq_none.mp hs) ht hw

theorem heard_timed {x : Recorded} (h : Timed Recorder.link x) (hp : x.1.isPresent = true)
    (hn : (heard x).2.now = x.2.now) : Timed Recorder.link (heard x) :=
  .acted (.receive _) h hp hn

theorem demoGuarded_timed : Timed Recorder.link demoGuarded := by
  have hstart : Timed Recorder.link demoConnected :=
    .acted (.dial 0) (.acted .start (.fresh demoStart_isFresh) rfl rfl) rfl rfl
  have hfirst := waitedTo_timed 290 (heard_timed hstart rfl (by decide +kernel))
    (by decide +kernel) (by decide +kernel) (by decide +kernel)
  have hsecond : Timed Recorder.link demoHeard :=
    waitedTo_timed 300 (heard_timed hfirst (by decide +kernel) (by decide +kernel))
      (by decide +kernel) (by decide +kernel) (by decide +kernel)
  exact waitedTo_timed 580 (.acted (.look 0) hsecond (by decide +kernel) (by decide +kernel))
    (by decide +kernel) (by decide +kernel) (by decide +kernel)

/-- The feed of the run above is still up, and a watchdog is about to look. -/
theorem detected_in_time_demo :
    demoGuarded.1.status = .up ∧
      (∃ w ∈ demoGuarded.1.watchdogs, w.epoch = 5 ∧ 580 ≤ w.wake ∧ w.wake ≤ 880) ∧
        ∃ t b, .heard t 5 b ∈ demoGuarded.2.journal.toList ∧ 580 < t + 600 := by
  obtain ⟨hup, hknown⟩ := detected_in_time demoGuarded_timed (by decide +kernel)
  obtain ⟨-, hwatch, hheard⟩ := hknown 5 (by decide +kernel)
  exact ⟨hup.mp (by decide +kernel), hwatch, hheard rfl⟩

end Demonstration

end Adapter
end QuoteBridge
