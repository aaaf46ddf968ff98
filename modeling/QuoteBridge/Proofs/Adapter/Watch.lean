import QuoteBridge.Bus.Recorder
import QuoteBridge.Proofs.Adapter.Effects
import QuoteBridge.Proofs.Reconnect.Turn

/-!
# Watchdogs

A watchdog compares the stall counter with what it was at its last look.  The counter goes up with
every message of the known run and is set back whenever a run is taken up, so the comparison tells
how many messages came since the last look only if the watchdog's run was not taken up again in
between.

**Input.**  An adapter over any link, and any order of messages, losses, calls, dispatch rounds,
turns of supervisors, looks of watchdogs and passing of time; timers may ring late, and of several
that rang any one may come first.

**Results.**
* `Adapter.attended_of_reachable`: since its last look a watchdog's counter has gone up by one with
  every message of its run, unless the run was taken up again.
* `Adapter.silent_iff_not_taken_up`: when a watchdog finds the counter unchanged, its run was silent
  since the last look just if the run was not taken up since then.
* `Adapter.degraded_in_spite_of_heartbeat`: a watchdog of an earlier acceptance of a run can end the
  feed within an interval of a heartbeat of that run.
-/

namespace QuoteBridge

/-- Whether an entry of the journal is a message of a producer run. -/
def Note.tellsOf {H : Type} (e : Epoch) : Note H → Bool
  | .heard _ e' _ => e' == e
  | _ => false

namespace Adapter

variable {β H : Type}

section Reaching

/-- Everything that can happen to an adapter over a link.  A place is one in the list of supervisors
or of watchdogs, from which on the first one that is due goes on. -/
inductive Reachable (link : Link β) : Adapter H → Scene β H → Prop
  | created (c : AdapterConfig) {a : Adapter H} {s : Scene β H} (ha : create c = .ok a)
      (hs : s.journal = #[]) : Reachable link a s
  | started {a : Adapter H} {s : Scene β H} (h : Reachable link a s) :
      Reachable link (start link a s).1 (start link a s).2
  | subscribed (name : String) (handle : H) {a : Adapter H} {s : Scene β H}
      (h : Reachable link a s) :
      Reachable link (subscribe name handle a s).2.1 (subscribe name handle a s).2.2
  | unsubscribed (name : String) {a : Adapter H} {s : Scene β H} (h : Reachable link a s) :
      Reachable link (unsubscribe name a).2 s
  | received (p : Payload) {a : Adapter H} {s : Scene β H} (h : Reachable link a s) :
      Reachable link (receive p a s).1 (receive p a s).2
  | lost {a : Adapter H} {s : Scene β H} (h : Reachable link a s) :
      Reachable link (transportError a s).1 (transportError a s).2
  | dispatched {a : Adapter H} {s : Scene β H} (h : Reachable link a s) :
      Reachable link (dispatchRound link a s).1 (dispatchRound link a s).2
  | dialed (place : Nat) {a : Adapter H} {s : Scene β H} {r : Adapter H × Scene β H}
      (h : Reachable link a s)
      (hr : superviseFrom link a s (a.supervisors.take place) (a.supervisors.drop place) = some r) :
      Reachable link r.1 r.2
  | looked (place : Nat) {a : Adapter H} {s : Scene β H} {r : Adapter H × Scene β H}
      (h : Reachable link a s)
      (hr : watchFrom a s (a.watchdogs.take place) (a.watchdogs.drop place) = some r) :
      Reachable link r.1 r.2
  | stopped {a : Adapter H} {s : Scene β H} (h : Reachable link a s) :
      Reachable link (shutdown link a s).1 (shutdown link a s).2
  | released {a : Adapter H} {s : Scene β H} (h : Reachable link a s) :
      Reachable link a.release s
  | waited (t : Nat) {a : Adapter H} {s : Scene β H} (h : Reachable link a s) (ht : s.now ≤ t) :
      Reachable link a { s with now := t }
  | busChanged (b : β) {a : Adapter H} {s : Scene β H} (h : Reachable link a s) :
      Reachable link a { s with bus := b }

end Reaching

section Looks

/-- The number of messages of a producer run that some notes tell of. -/
def heardCount (e : Epoch) (ns : List (Note H)) : Nat := ns.countP (Note.tellsOf e)

/-- A watchdog's last look, or its making, at some time, and the journal before and after it. -/
structure LastLook (interval : Nat) (s : Scene β H) (w : Watchdog) (t₀ : Nat)
    (earlier later : List (Note H)) : Prop where
  wake : w.wake = Timer.due t₀ interval
  past : t₀ ≤ s.now
  split : s.journal.toList = earlier ++ later
  before : ∀ {t e b}, .heard t e b ∈ earlier → t ≤ t₀
  after : ∀ {t e b}, .heard t e b ∈ later → t₀ ≤ t

/-- Unless its run was taken up since the last look, a watchdog's counter has gone up by one with
every message of that run. -/
def Attended (interval : Nat) (l : Liveness) (s : Scene β H) (w : Watchdog) : Prop :=
  ∃ t₀ earlier later, LastLook interval s w t₀ earlier later ∧
    ((∀ t, .heard t w.epoch true ∉ later) → l.epoch = some w.epoch →
      l.stallCounter = w.lastSeen + UInt64.ofNat (heardCount w.epoch later))

/-- Every watchdog is attended, and the journal tells of the past. -/
structure Watched (a : Adapter H) (s : Scene β H) : Prop where
  past : ∀ {t e b}, .heard t e b ∈ s.journal.toList → t ≤ s.now
  attended : ∀ w ∈ a.watchdogs, Attended a.config.watchdogInterval a.book.liveness s w

/-- The notes tell of no heard message. -/
def Unheard (ns : List (Note H)) : Prop := ∀ {t e b}, .heard t e b ∉ ns

theorem AllCalls.unheard {ns : Array (Note H)} (h : AllCalls ns) : Unheard ns.toList := by
  intro t e b hm
  obtain ⟨c, hc⟩ := h _ (Array.mem_toList_iff.mp hm)
  cases hc

theorem heardCount_of_unheard {ns : List (Note H)} (h : Unheard ns) (e : Epoch) :
    heardCount e ns = 0 := by
  refine List.countP_eq_zero.mpr (fun n hn => ?_)
  cases n with
  | heard t e' b => exact absurd hn h
  | subscribed i n => exact Bool.false_ne_true
  | called c => exact Bool.false_ne_true

/-- A step that hears nothing: the watchdogs stay or go, and the run stays with its counter or is
forgotten. -/
structure Deaf (a : Adapter H) (s : Scene β H) (a' : Adapter H) (s' : Scene β H) : Prop where
  config : a'.config = a.config
  watchdogs : ∀ w ∈ a'.watchdogs, w ∈ a.watchdogs
  now : s.now ≤ s'.now
  journal : ∃ ns, s'.journal.toList = s.journal.toList ++ ns ∧ Unheard ns
  run : a'.epoch? = none ∨ a'.epoch? = a.epoch? ∧
    a'.book.liveness.stallCounter = a.book.liveness.stallCounter

/-- What is heard later comes after the last look. -/
theorem LastLook.append {interval : Nat} {s s' : Scene β H} {w : Watchdog} {t₀ : Nat}
    {earlier later ns : List (Note H)} (hl : LastLook interval s w t₀ earlier later)
    (hn : s.now ≤ s'.now) (hj : s'.journal.toList = s.journal.toList ++ ns)
    (hns : ∀ {t e b}, .heard t e b ∈ ns → s.now ≤ t) :
    LastLook interval s' w t₀ earlier (later ++ ns) where
  wake := hl.wake
  past := Nat.le_trans hl.past hn
  split := by rw [hj, hl.split, List.append_assoc]
  before := hl.before
  after := by
    intro t e b hm
    rcases List.mem_append.mp hm with hm | hm
    · exact hl.after hm
    · exact Nat.le_trans hl.past (hns hm)

theorem Watched.past_append {a : Adapter H} {s s' : Scene β H} {ns : List (Note H)}
    (h : Watched a s) (hn : s.now ≤ s'.now)
    (hj : s'.journal.toList = s.journal.toList ++ ns)
    (hns : ∀ {t e b}, .heard t e b ∈ ns → t ≤ s'.now) {t : Nat} {e : Epoch} {b : Bool}
    (hm : .heard t e b ∈ s'.journal.toList) : t ≤ s'.now := by
  rw [hj, List.mem_append] at hm
  rcases hm with hm | hm
  · exact Nat.le_trans (h.past hm) hn
  · exact hns hm

/-- A step that hears nothing leaves the watchdogs attended. -/
theorem Watched.deaf {a a' : Adapter H} {s s' : Scene β H} (h : Watched a s)
    (hd : Deaf a s a' s') : Watched a' s' := by
  obtain ⟨ns, hj, hns⟩ := hd.journal
  constructor
  · intro t e b hm
    exact h.past_append hd.now hj (fun hm => absurd hm hns) hm
  · intro w hw
    obtain ⟨t₀, earlier, later, hl, hcount⟩ := h.attended w (hd.watchdogs w hw)
    have hl' := hl.append hd.now hj (fun hm => absurd hm hns)
    rw [hd.config]
    refine ⟨t₀, earlier, later ++ ns, hl', fun hnot he => ?_⟩
    obtain hnone | ⟨hsame, hstall⟩ := hd.run
    · cases hnone.symm.trans he
    · have hc : heardCount w.epoch (later ++ ns) = heardCount w.epoch later := by
        have hz : ns.countP (Note.tellsOf w.epoch) = 0 := heardCount_of_unheard hns w.epoch
        rw [heardCount, List.countP_append, hz]
        rfl
      rw [hc, hstall]
      exact hcount (fun t hm => hnot t (List.mem_append_left ns hm)) (hsame.symm.trans he)

end Looks

section Hearing

/-- A watchdog that begins now is attended. -/
theorem attended_now {interval : Nat} {l : Liveness} {s : Scene β H} {e : Epoch} {n : UInt64}
    (hpast : ∀ {t e b}, .heard t e b ∈ s.journal.toList → t ≤ s.now)
    (hn : l.stallCounter = n) : Attended interval l s ⟨e, n, Timer.due s.now interval⟩ := by
  refine ⟨s.now, s.journal.toList, [], ⟨rfl, Nat.le_refl _, (List.append_nil _).symm, hpast,
    fun hm => by cases hm⟩, fun _ _ => ?_⟩
  rw [hn]
  exact (UInt64.add_zero n).symm

/-- A message of a new run leaves the watchdogs attended, as the run that it ends is not theirs any
more or is taken up again. -/
theorem Watched.heardNew {a a' : Adapter H} {s s' : Scene β H} (h : Watched a s) {e : Epoch}
    (hc : a'.config = a.config) (he : a'.epoch? = some e)
    (hs : a'.book.liveness.stallCounter = 0) (hn : s'.now = s.now)
    (hj : s'.journal.toList = s.journal.toList ++ [.heard s.now e true])
    (hw : a'.watchdogs = a.watchdogs ++ [⟨e, 0, Timer.due s.now a.config.watchdogInterval⟩]) :
    Watched a' s' := by
  have hnow : ∀ {t e' b}, .heard t e' b ∈ [(.heard s.now e true : Note H)] → t = s.now := by
    intro t e' b hm
    cases List.mem_singleton.mp hm
    rfl
  have hpast : ∀ {t e' b}, .heard t e' b ∈ s'.journal.toList → t ≤ s'.now :=
    h.past_append (Nat.le_of_eq hn.symm) hj (fun hm => Nat.le_of_eq ((hnow hm).trans hn.symm))
  constructor
  · exact hpast
  · intro w hmem
    rw [hw, List.mem_append, List.mem_singleton] at hmem
    rw [hc]
    rcases hmem with hmem | rfl
    · obtain ⟨t₀, earlier, later, hl, -⟩ := h.attended w hmem
      have hl' := hl.append (Nat.le_of_eq hn.symm) hj (fun hm => Nat.le_of_eq (hnow hm).symm)
      refine ⟨t₀, earlier, later ++ [.heard s.now e true], hl', fun hnot hwe => ?_⟩
      have hwe := he.symm.trans hwe
      rw [Option.some.injEq] at hwe
      exact absurd (List.mem_append_right _ (by simp [hwe])) (hnot s.now)
    · have hbegun : Attended a.config.watchdogInterval a'.book.liveness s'
          ⟨e, 0, Timer.due s'.now a.config.watchdogInterval⟩ := attended_now hpast hs
      rw [hn] at hbegun
      exact hbegun

/-- A message of the known run moves its watchdogs' counter by one. -/
theorem Watched.heardKnown {a a' : Adapter H} {s s' : Scene β H} (h : Watched a s) {e : Epoch}
    (ns : List (Note H)) (hc : a'.config = a.config) (hold : a.epoch? = some e)
    (he : a'.epoch? = some e)
    (hs : a'.book.liveness.stallCounter = a.book.liveness.stallCounter + 1)
    (hn : s'.now = s.now)
    (hj : s'.journal.toList = s.journal.toList ++ .heard s.now e false :: ns)
    (hns : Unheard ns) (hw : a'.watchdogs = a.watchdogs) : Watched a' s' := by
  have hnow : ∀ {t e' b}, .heard t e' b ∈ .heard s.now e false :: ns → t = s.now := by
    intro t e' b hm
    rcases List.mem_cons.mp hm with hm | hm
    · cases hm
      rfl
    · exact absurd hm hns
  constructor
  · intro t e' b hm
    exact h.past_append (Nat.le_of_eq hn.symm) hj
      (fun hm => Nat.le_of_eq ((hnow hm).trans hn.symm)) hm
  · intro w hmem
    obtain ⟨t₀, earlier, later, hl, hcount⟩ := h.attended w (hw ▸ hmem)
    have hl' := hl.append (Nat.le_of_eq hn.symm) hj (fun hm => Nat.le_of_eq (hnow hm).symm)
    rw [hc]
    refine ⟨t₀, earlier, later ++ .heard s.now e false :: ns, hl', fun hnot hwe => ?_⟩
    have hwe := he.symm.trans hwe
    rw [Option.some.injEq] at hwe
    have hlater := hcount (fun t hm => hnot t (List.mem_append_left _ hm)) (hwe ▸ hold)
    have hz : ns.countP (Note.tellsOf w.epoch) = 0 := heardCount_of_unheard hns w.epoch
    have hone : heardCount w.epoch (later ++ .heard s.now e false :: ns) =
        heardCount w.epoch later + 1 := by
      rw [heardCount, List.countP_append, List.countP_cons_of_pos (by simp [Note.tellsOf, hwe]),
        hz]
      rfl
    rw [hs, hlater, hone, UInt64.ofNat_add, UInt64.add_assoc]
    rfl

theorem Watched.receive {a : Adapter H} {s : Scene β H} (h : Watched a s) (p : Payload) :
    Watched (receive p a s).1 (receive p a s).2 := by
  generalize hr : Adapter.receive p a s = r
  cases hr ▸ receive_effect p a s with
  | ignored m hm =>
      exact h.deaf ⟨rfl, fun _ hw => hw, Nat.le_refl _,
        ⟨[], (List.append_nil _).symm, fun hm => by cases hm⟩, Or.inr ⟨rfl, rfl⟩⟩
  | anew msg m hm he =>
      have hl : a.book.liveness.epoch ≠ some msg.epoch := he
      refine h.heardNew (e := msg.epoch) rfl ?_ ?_ rfl Array.toList_push rfl
      · exact epoch_renewed msg.epoch a.book
      · simp [renewed, Book.observe, Liveness.observe, Book.resubscribeAll, hl]
  | known msg m hm he hu =>
      have hl : a.book.liveness.epoch = some msg.epoch := he
      refine h.heardKnown (e := msg.epoch) [] rfl he ?_ ?_ rfl Array.toList_push
        (fun hm => by cases hm) rfl
      · exact epoch_counted msg.epoch a.book
      · simp [counted, Book.observe, Liveness.observe, hl]
  | delivered u sub m hm he hsub hid =>
      have hl : a.book.liveness.epoch = some u.epoch := he
      refine h.heardKnown (e := u.epoch)
        [.called ⟨s.now, u.item, sub.id, if sub.snapshotSent then .delta else .snapshot,
          sub.handle, u.fields, !sub.snapshotSent⟩]
        rfl he ?_ ?_ rfl (by simp) (by intro t e b; simp) rfl
      · exact epoch_counted u.epoch a.book
      · simp [counted, Book.observe, Liveness.observe, Book.setSnapshotSent, hl]

end Hearing

section Deafness

theorem unheard_nil : Unheard ([] : List (Note H)) := fun hm => by cases hm

theorem unheard_subscribed (i : Item) (n : SubscriptionId) {ns : List (Note H)}
    (h : Unheard ns) : Unheard (.subscribed i n :: ns) := by
  intro t e b hm
  rcases List.mem_cons.mp hm with hm | hm
  · cases hm
  · exact h hm

/-- A step that changes nothing that a watchdog sees. -/
theorem Deaf.same {a a' : Adapter H} {s s' : Scene β H} (hc : a'.config = a.config)
    (hw : a'.watchdogs = a.watchdogs) (hn : s.now ≤ s'.now) (hj : s'.journal = s.journal)
    (he : a'.epoch? = a.epoch?)
    (hs : a'.book.liveness.stallCounter = a.book.liveness.stallCounter) : Deaf a s a' s' :=
  ⟨hc, fun w hmem => hw ▸ hmem, hn, ⟨[], by rw [hj, List.append_nil], unheard_nil⟩,
    Or.inr ⟨he, hs⟩⟩

theorem subscribe_deaf (name : String) (handle : H) (a : Adapter H) (s : Scene β H) :
    Deaf a s (subscribe name handle a s).2.1 (subscribe name handle a s).2.2 := by
  generalize hr : (subscribe name handle a s).2 = r
  cases hr ▸ subscribe_effect name handle a s with
  | refused => exact .same rfl rfl (Nat.le_refl _) rfl rfl rfl
  | requested i handle he =>
      exact ⟨rfl, fun _ hw => hw, Nat.le_refl _,
        ⟨[.subscribed i a.book.nextId], Array.toList_push, unheard_subscribed _ _ unheard_nil⟩,
        Or.inr ⟨rfl, rfl⟩⟩
  | idle i handle subs m notes he hc =>
      exact ⟨rfl, fun _ hw => hw, Nat.le_refl _,
        ⟨.subscribed i a.book.nextId :: notes.toList, by simp,
          unheard_subscribed _ _ hc.unheard⟩, Or.inr ⟨rfl, rfl⟩⟩

theorem unsubscribe_deaf (name : String) (a : Adapter H) (s : Scene β H) :
    Deaf a s (unsubscribe name a).2 s := by
  generalize hr : (unsubscribe name a).2 = r
  cases hr ▸ unsubscribe_effect name a with
  | refused => exact .same rfl rfl (Nat.le_refl _) rfl rfl rfl
  | requested i sub he hs => exact .same rfl rfl (Nat.le_refl _) rfl rfl rfl
  | idle i he => exact .same rfl rfl (Nat.le_refl _) rfl rfl rfl

theorem degrade_deaf (cause : DownCause) (a : Adapter H) (s : Scene β H) :
    Deaf a s (degrade cause a s).1 (degrade cause a s).2 := by
  obtain ⟨subs, m, notes, hc, h⟩ := degrade_effect cause a s
  rw [h]
  exact ⟨rfl, fun _ hw => hw, Nat.le_refl _,
    ⟨notes.toList, Array.toList_append, hc.unheard⟩, Or.inl rfl⟩

theorem transportError_deaf (a : Adapter H) (s : Scene β H) :
    Deaf a s (transportError a s).1 (transportError a s).2 := by
  obtain ⟨subs, m, notes, hc, h⟩ := transportError_effect a s
  rw [h]
  exact ⟨rfl, fun _ hw => hw, Nat.le_refl _,
    ⟨notes.toList, Array.toList_append, hc.unheard⟩, Or.inl rfl⟩

theorem retireIfGone_deaf (a : Adapter H) (s : Scene β H) : Deaf a s a.retireIfGone s := by
  unfold retireIfGone
  split
  · exact .same rfl rfl (Nat.le_refl _) rfl rfl rfl
  · exact .same rfl rfl (Nat.le_refl _) rfl rfl rfl

theorem Deaf.trans {a₁ a₂ a₃ : Adapter H} {s₁ s₂ s₃ : Scene β H} (h : Deaf a₁ s₁ a₂ s₂)
    (h' : Deaf a₂ s₂ a₃ s₃) : Deaf a₁ s₁ a₃ s₃ := by
  obtain ⟨ns, hj, hns⟩ := h.journal
  obtain ⟨ns', hj', hns'⟩ := h'.journal
  refine ⟨h'.config.trans h.config, fun w hw => h.watchdogs w (h'.watchdogs w hw),
    Nat.le_trans h.now h'.now, ⟨ns ++ ns', by rw [hj', hj, List.append_assoc], ?_⟩, ?_⟩
  · intro t e b hm
    rcases List.mem_append.mp hm with hm | hm
    · exact hns hm
    · exact hns' hm
  · rcases h'.run with hnone | ⟨he', hs'⟩
    · exact Or.inl hnone
    · rcases h.run with hnone | ⟨he, hs⟩
      · exact Or.inl (he'.trans hnone)
      · exact Or.inr ⟨he'.trans he, hs'.trans hs⟩

theorem release_deaf (a : Adapter H) (s : Scene β H) : Deaf a s a.release s := by
  have hmark : Deaf a s { a with released := true } s :=
    .same rfl rfl (Nat.le_refl _) rfl rfl rfl
  exact hmark.trans (retireIfGone_deaf _ _)

theorem dispatchOne_deaf (link : Link β) (r : Request) (a : Adapter H) (s : Scene β H) :
    Deaf a s (dispatchOne link r a s).1 (dispatchOne link r a s).2 := by
  unfold dispatchOne
  dsimp only
  split
  · exact .same rfl rfl (Nat.le_refl _) rfl rfl rfl
  · exact .same rfl rfl (Nat.le_refl _) rfl rfl rfl

theorem dispatchAll_deaf (link : Link β) (rs : List Request) (a : Adapter H) (s : Scene β H) :
    Deaf a s (dispatchAll link rs a s).1 (dispatchAll link rs a s).2 := by
  induction rs generalizing a s with
  | nil => exact .same rfl rfl (Nat.le_refl _) rfl rfl rfl
  | cons r rs ih => exact (dispatchOne_deaf link r a s).trans (ih _ _)

theorem dispatchRound_deaf (link : Link β) (a : Adapter H) (s : Scene β H) :
    Deaf a s (dispatchRound link a s).1 (dispatchRound link a s).2 := by
  have hcleared : Deaf a s { a with book := a.book.clearPending } s :=
    .same rfl rfl (Nat.le_refl _) rfl rfl rfl
  have hsent := hcleared.trans (dispatchAll_deaf link a.book.pending _ s)
  generalize hr : dispatchAll link a.book.pending { a with book := a.book.clearPending } s = r
    at hsent
  rw [dispatchRound, hr]
  have hdone : Deaf r.1 r.2 { r.1 with rounds := r.1.rounds - 1 } r.2 :=
    .same rfl rfl (Nat.le_refl _) rfl rfl rfl
  exact (hsent.trans hdone).trans (retireIfGone_deaf _ _)

theorem superviseFrom_deaf {link : Link β} {a : Adapter H} {s : Scene β H}
    {r : Adapter H × Scene β H} {vs done : List Supervisor}
    (h : superviseFrom link a s done vs = some r) : Deaf a s r.1 r.2 := by
  obtain ⟨v, others, left, w, hw, rfl⟩ := superviseFrom_turn h
  have hturn : Deaf a s w.1 w.2 := by
    rw [hw]
    exact Supervisor.turn_induction (dialer link)
      (P := fun w : Adapter H × Scene β H => Deaf a s w.1 w.2)
      (fun w h => h.trans (.same rfl rfl (Nat.le_refl _) rfl rfl rfl))
      (fun w h => h.trans (.same rfl rfl (Nat.le_refl _) rfl rfl rfl))
      (fun w h => h.trans (retireIfGone_deaf w.1 w.2))
      (fun _ w h => h.trans (.same rfl rfl (Nat.le_refl _) rfl rfl rfl))
      (fun w h => h.trans (.same rfl rfl (Nat.le_refl _) rfl rfl rfl)) s.now v
      (.same rfl rfl (Nat.le_refl _) rfl rfl rfl)
  exact hturn.trans (.same rfl rfl (Nat.le_refl _) rfl rfl rfl)

end Deafness

section Looking

theorem Watched.look {a : Adapter H} {s : Scene β H} {r : Adapter H × Scene β H}
    (h : Watched a s) {ws done : List Watchdog} (hws : a.watchdogs = done ++ ws)
    (hr : watchFrom a s done ws = some r) : Watched r.1 r.2 := by
  obtain ⟨pre, w, post, rfl, hw, rfl⟩ := watchFrom_cases hr
  have hothers : ∀ v ∈ done ++ pre ++ post, v ∈ a.watchdogs := by
    intro v hv
    simp only [hws, List.mem_append, List.mem_cons] at hv ⊢
    grind
  unfold Adapter.look
  split
  · split
    · obtain ⟨hc, -, hn, hj, hrun⟩ := degrade_deaf .producer a s
      exact h.deaf ⟨hc, fun v hv => hothers v (by simpa using hv), hn, hj, hrun⟩
    · refine ⟨h.past, fun v hv => ?_⟩
      simp only [Option.toList, List.append_assoc, List.mem_append, List.mem_singleton] at hv
      rcases hv with hv | hv | rfl | hv
      · exact h.attended v (hothers v (by simp [hv]))
      · exact h.attended v (hothers v (by simp [hv]))
      · exact attended_now h.past rfl
      · exact h.attended v (hothers v (by simp [hv]))
  · exact h.deaf ⟨rfl, fun v hv => hothers v (by simpa using hv), Nat.le_refl _,
      ⟨[], (List.append_nil _).symm, unheard_nil⟩, Or.inr ⟨rfl, rfl⟩⟩

/-- Since its last look a watchdog's counter has gone up by one with every message of its run,
unless the run was taken up again. -/
theorem attended_of_reachable {link : Link β} {a : Adapter H} {s : Scene β H}
    (h : Reachable link a s) : Watched a s := by
  induction h with
  | created c ha hs =>
      obtain ⟨o, rfl⟩ := eq_of_create ha
      exact ⟨fun hm => by simp [hs] at hm, fun w hw => by cases hw⟩
  | started h ih => exact ih.deaf (.same rfl rfl (Nat.le_refl _) rfl rfl rfl)
  | subscribed name handle h ih => exact ih.deaf (subscribe_deaf name handle _ _)
  | unsubscribed name h ih => exact ih.deaf (unsubscribe_deaf name _ _)
  | received p h ih => exact ih.receive p
  | lost h ih => exact ih.deaf (transportError_deaf _ _)
  | dispatched h ih => exact ih.deaf (dispatchRound_deaf _ _ _)
  | dialed place h hr ih => exact ih.deaf (superviseFrom_deaf hr)
  | looked place h hr ih => exact ih.look (List.take_append_drop place _).symm hr
  | stopped h ih =>
      exact ih.deaf ⟨rfl, fun _ hw => hw, Nat.le_refl _,
        ⟨[], (List.append_nil _).symm, unheard_nil⟩, Or.inl rfl⟩
  | released h ih => exact ih.deaf (release_deaf _ _)
  | waited t h ht ih => exact ih.deaf (.same rfl rfl ht rfl rfl rfl)
  | busChanged b h ih => exact ih.deaf (.same rfl rfl (Nat.le_refl _) rfl rfl rfl)

end Looking

section Silence

/-- The time between two looks of a watchdog. -/
def silence (a : Adapter H) : Nat := min a.config.watchdogInterval Timer.longest

/-- The number of messages of a producer run since some time. -/
def heardSince (e : Epoch) (start : Nat) (ns : List (Note H)) : Nat :=
  ns.countP (fun n => match n with
    | .heard t e' _ => e' == e && decide (start ≤ t)
    | _ => false)

/-- The messages after a look came since its time. -/
theorem heardCount_le_heardSince {start : Nat} (e : Epoch) (earlier : List (Note H))
    {later : List (Note H)} (h : ∀ {t e b}, .heard t e b ∈ later → start ≤ t) :
    heardCount e later ≤ heardSince e start (earlier ++ later) := by
  have hlater : heardCount e later ≤ heardSince e start later := by
    refine List.countP_mono_left (fun n hn ht => ?_)
    cases n with
    | heard t e' b =>
        have hstart := h hn
        simpa [Note.tellsOf, hstart] using ht
    | subscribed i n => cases ht
    | called c => cases ht
  refine Nat.le_trans hlater ?_
  rw [heardSince, heardSince, List.countP_append]
  exact Nat.le_add_left _ _

/-- A counter that has gone up fewer than 2⁶⁴ times and is where it was has not gone up. -/
theorem eq_zero_of_add_ofNat {n : UInt64} {k : Nat} (hk : k < UInt64.size)
    (h : n = n + UInt64.ofNat k) : k = 0 := by
  have hz : UInt64.ofNat k = 0 := by
    have hcancel : n + 0 = n + UInt64.ofNat k := by rw [UInt64.add_zero]; exact h
    exact ((UInt64.add_right_inj n).mp hcancel).symm
  have hnat : (UInt64.ofNat k).toNat = 0 := by rw [hz]; rfl
  rw [UInt64.toNat_ofNat_of_lt' hk] at hnat
  exact hnat

theorem not_heard_of_heardCount_eq_zero {e : Epoch} {ns : List (Note H)}
    (h : heardCount e ns = 0) {t : Nat} {b : Bool} : .heard t e b ∉ ns := by
  intro hm
  exact List.countP_eq_zero.mp h _ hm (by simp [Note.tellsOf])

/-- A watchdog that ends the feed is due, and finds its run known with an unchanged counter. -/
theorem exists_of_watchFrom {a : Adapter H} {s : Scene β H} {r : Adapter H × Scene β H} {e : Epoch}
    {ws done : List Watchdog} (hr : watchFrom a s done ws = some r) (he : a.epoch? = some e)
    (hd : r.1.epoch? = none) :
    ∃ w ∈ ws, w.epoch = e ∧ w.wake ≤ s.now ∧ a.book.liveness.stallCounter = w.lastSeen := by
  obtain ⟨pre, w, post, hws, hw, rfl⟩ := watchFrom_cases hr
  refine ⟨w, by simp [hws], ?_⟩
  have hl : a.book.liveness.epoch = some e := he
  have hlook : (look w a s).2.1.book.liveness.epoch = none := hd
  unfold look at hlook
  split at hlook
  · rename_i hknown
    have hwe : w.epoch = e := Option.some.inj (hknown.1.symm.trans hl)
    split at hlook
    · rename_i hsame
      exact ⟨hwe, hw, hsame⟩
    · cases hl.symm.trans hlook
  · cases hl.symm.trans hlook

/-- A watchdog ends the feed.  Its run was silent since the watchdog's last look just if the run
was not taken up since then; and if it was not, no message of the run came within the time of
silence before now. -/
theorem silent_iff_not_taken_up {link : Link β} {a : Adapter H} {s : Scene β H}
    {r : Adapter H × Scene β H} {e : Epoch} (h : Reachable link a s) (place : Nat)
    (hr : watchFrom a s (a.watchdogs.take place) (a.watchdogs.drop place) = some r)
    (he : a.epoch? = some e) (hd : r.1.epoch? = none)
    (hfew : ∀ w ∈ a.watchdogs,
      heardSince e (w.wake - a.silence) s.journal.toList < UInt64.size) :
    ∃ w ∈ a.watchdogs, w.epoch = e ∧ w.wake ≤ s.now ∧ ∃ t₀ earlier later,
      LastLook a.config.watchdogInterval s w t₀ earlier later ∧
        ((∀ t b, .heard t e b ∉ later) ↔ ∀ t, .heard t e true ∉ later) ∧
          ((∀ t, .heard t e true ∉ later) → ∀ t b, .heard t e b ∈ s.journal.toList →
            ¬ (s.now < t + a.silence ∧ t < s.now)) := by
  obtain ⟨w, hw, rfl, hdue, hsame⟩ := exists_of_watchFrom hr he hd
  have hw : w ∈ a.watchdogs := List.mem_of_mem_drop hw
  obtain ⟨t₀, earlier, later, hl, hcount⟩ := (attended_of_reachable h).attended w hw
  have hwake : w.wake = t₀ + a.silence := hl.wake
  have hsilent : (∀ t, .heard t w.epoch true ∉ later) → ∀ t b, .heard t w.epoch b ∉ later := by
    intro hnot t b
    have hadd := hcount hnot he
    rw [hsame] at hadd
    have hlt : heardCount w.epoch later < UInt64.size := by
      refine Nat.lt_of_le_of_lt ?_ (hfew w hw)
      have hstart : w.wake - a.silence = t₀ := by omega
      rw [hl.split, hstart]
      exact heardCount_le_heardSince w.epoch earlier hl.after
    exact not_heard_of_heardCount_eq_zero (eq_zero_of_add_ofNat hlt hadd)
  refine ⟨w, hw, rfl, hdue, t₀, earlier, later, hl, ⟨fun hall t => hall t true, hsilent⟩,
    fun hnot t b hm hin => ?_⟩
  rw [hl.split] at hm
  rcases List.mem_append.mp hm with hm | hm
  · have hbefore := hl.before hm
    omega
  · exact hsilent hnot t b hm

end Silence

section Demonstration

/-- A small adapter with watchdogs that look every 300 milliseconds. -/
def demo : Adapter String :=
  ⟨.brisk, .initial,
    ⟨.grow ⟨1, Outbox.requestsLabel, 2, [], 0, Nat.two_pos, Pool.two_le_most⟩,
      .grow ⟨2, Outbox.updatesLabel, 2, [], 0, Nat.two_pos, Pool.two_le_most⟩⟩,
    0, [], [], 0, false⟩

/-- An adapter and its scene over a recorder. -/
abbrev Recorded : Type := Adapter String × Scene Recorder String

/-- Does a piece of work, if there is one. -/
def worked (x : Recorded) : Recorded := (x.1.step? Recorder.link x.2).getD x

/-- Lets the time pass, if it is not later already. -/
def waitedTo (t : Nat) (x : Recorded) : Recorded :=
  (x.1, { x.2 with now := max x.2.now t })

/-- Hears a heartbeat of the fifth run. -/
def heard (x : Recorded) : Recorded := receive (Message.heartbeat 5).encode x.1 x.2

/-- Loses the session. -/
def lost (x : Recorded) : Recorded := transportError x.1 x.2

/-- The small adapter after its start. -/
def demoConnected : Recorded :=
  worked (start Recorder.link demo (Scene.initial 0 (Recorder.create [])))

/-- A heartbeat comes at once, and then nothing until the watchdog looks. -/
def demoQuiet : Recorded := waitedTo 300 (heard demoConnected)

/-- A heartbeat comes at once; the session is lost and opened again; another heartbeat comes just
before the watchdog of the first one looks. -/
def demoReturned : Recorded :=
  waitedTo 300 (heard (waitedTo 290 (worked (lost (waitedTo 10 (heard demoConnected))))))

theorem worked_reachable {x : Recorded} (h : Reachable Recorder.link x.1 x.2) :
    Reachable Recorder.link (worked x).1 (worked x).2 := by
  unfold worked step?
  split
  · rename_i r hr
    exact .dialed 0 h hr
  · split
    · cases hr : watchFrom x.1 x.2 [] x.1.watchdogs with
      | none => exact h
      | some r => exact .looked 0 h hr
    · exact h

theorem waitedTo_reachable (t : Nat) {x : Recorded} (h : Reachable Recorder.link x.1 x.2) :
    Reachable Recorder.link (waitedTo t x).1 (waitedTo t x).2 :=
  .waited _ h (Nat.le_max_left _ _)

theorem heard_reachable {x : Recorded} (h : Reachable Recorder.link x.1 x.2) :
    Reachable Recorder.link (heard x).1 (heard x).2 :=
  .received _ h

theorem lost_reachable {x : Recorded} (h : Reachable Recorder.link x.1 x.2) :
    Reachable Recorder.link (lost x).1 (lost x).2 :=
  .lost h

theorem demoConnected_reachable :
    Reachable Recorder.link demoConnected.1 demoConnected.2 :=
  worked_reachable (.started (.created .brisk (show create .brisk = .ok demo from rfl) rfl))

theorem demoQuiet_reachable : Reachable Recorder.link demoQuiet.1 demoQuiet.2 :=
  waitedTo_reachable 300 (heard_reachable demoConnected_reachable)

theorem demoReturned_reachable : Reachable Recorder.link demoReturned.1 demoReturned.2 := by
  have hlost := lost_reachable (waitedTo_reachable 10 (heard_reachable demoConnected_reachable))
  exact waitedTo_reachable 300 (heard_reachable (waitedTo_reachable 290 (worked_reachable hlost)))

/-- Whether a watchdog ends the feed of the fifth run, with few messages in the journal. -/
def ends (x : Recorded) : Bool :=
  x.1.epoch? == some 5 &&
    (watchFrom x.1 x.2 [] x.1.watchdogs).map (fun r => r.1.epoch?) == some none &&
      decide (x.2.journal.size < UInt64.size)

theorem exists_of_ends {x : Recorded} (h : ends x = true) :
    ∃ r, x.1.epoch? = some 5 ∧ watchFrom x.1 x.2 [] x.1.watchdogs = some r ∧
      r.1.epoch? = none ∧
        ∀ w ∈ x.1.watchdogs,
          heardSince 5 (w.wake - x.1.silence) x.2.journal.toList < UInt64.size := by
  simp only [ends, Bool.and_eq_true, beq_iff_eq, decide_eq_true_eq] at h
  obtain ⟨⟨he, hw⟩, hn⟩ := h
  obtain ⟨r, hr, hd⟩ := Option.map_eq_some_iff.mp hw
  exact ⟨r, he, hr, hd, fun w _ => Nat.lt_of_le_of_lt List.countP_le_length hn⟩

/-- The quiet adapter, whose run was silent. -/
theorem silent_iff_not_taken_up_demo :
    ∃ w ∈ demoQuiet.1.watchdogs, w.epoch = 5 ∧ w.wake ≤ demoQuiet.2.now ∧ ∃ t₀ earlier later,
      LastLook demoQuiet.1.config.watchdogInterval demoQuiet.2 w t₀ earlier later ∧
        ((∀ t b, .heard t 5 b ∉ later) ↔ ∀ t, .heard t 5 true ∉ later) ∧
          ((∀ t, .heard t 5 true ∉ later) → ∀ t b, .heard t 5 b ∈ demoQuiet.2.journal.toList →
            ¬ (demoQuiet.2.now < t + demoQuiet.1.silence ∧ t < demoQuiet.2.now)) := by
  obtain ⟨r, he, hr, hd, hfew⟩ := exists_of_ends (x := demoQuiet) (by decide +kernel)
  exact silent_iff_not_taken_up demoQuiet_reachable 0 hr he hd hfew

/-- A watchdog of an earlier acceptance of a run ends the feed within an interval of a heartbeat
of that run. -/
theorem degraded_in_spite_of_heartbeat :
    ¬ ∀ (a : Adapter String) (s : Scene Recorder String) (r : Recorded) (e : Epoch),
        Reachable Recorder.link a s → watchFrom a s [] a.watchdogs = some r →
          a.epoch? = some e → r.1.epoch? = none →
            (∀ w ∈ a.watchdogs,
              heardSince e (w.wake - a.silence) s.journal.toList < UInt64.size) →
              ∀ t b, .heard t e b ∈ s.journal.toList →
                ¬ (s.now < t + a.silence ∧ t < s.now) := by
  intro heach
  obtain ⟨r, he, hr, hd, hfew⟩ := exists_of_ends (x := demoReturned) (by decide +kernel)
  have hheard : demoReturned.2.journal.toList.any (fun n => match n with
      | .heard t e _ => t == 290 && e == 5
      | _ => false) = true := by
    decide +kernel
  obtain ⟨n, hn, hmatch⟩ := List.any_eq_true.mp hheard
  cases n with
  | subscribed i n => cases hmatch
  | called c => cases hmatch
  | heard t e b =>
      simp only [Bool.and_eq_true, beq_iff_eq] at hmatch
      obtain ⟨rfl, rfl⟩ := hmatch
      exact heach _ _ r 5 demoReturned_reachable hr he hd hfew 290 b hn (by decide +kernel)

end Demonstration

end Adapter

end QuoteBridge
