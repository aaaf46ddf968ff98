import Mathlib.Data.List.Induction
import QuoteBridge.Proofs.Reconnect.Rivals

/-!
# The account of attempts

Supervisors of both sides make attempts to connect, and two counters of each side tell how they
ended.  A ledger is kept beside the bench in which every attempt that is over is entered with its
side and its fate, and the counters are read off the ledger.

**Supersession.**  Within a turn the scripts make newer generations, be it while an attempt is under
way.  Between two turns the newest generation may become any number, so that a supervisor is
overtaken at any time, or goes on beside others, as where each has a number of its own.

**Fates.**  A failure is counted before the supervisor looks for a newer generation, and a success
after it.  A success that was overtaken meanwhile is the one kind of attempt that nobody counts.

**Results.**
* `Supervisor.turn_cases`: what a turn does about attempts.
* `Bench.Balanced.perform`: the account is kept by every act.
* `Bench.attempts_accounted`: every attempt that was begun is under way or in the ledger, and the
  counters are right about the ledger just if no success was overtaken.
-/

namespace QuoteBridge

namespace Supervisor

section Arrivals

variable {σ : Type} (d : Dialer σ) (v : Supervisor) (w : σ)

/-- The attempt that is over in the turn of a supervisor that is due: its result, and the
surroundings in which it is judged. -/
def arrival? : Option (BusResult × σ) :=
  match v.phase with
  | .dialing _ result => some (result, d.arrived w)
  | .finished _ => none
  | _ =>
      if v.isCurrent d w ∧ (d.dial (d.reset w)).1.delay = none then
        some ((d.dial (d.reset w)).1.result, d.arrived (d.dial (d.reset w)).2)
      else none

/-- What a turn does about attempts: which one is over in it, and what comes of the turn. -/
inductive Turns (now : Nat) : Option (BusResult × σ) → Supervisor × σ → Prop
  /-- The supervisor was overtaken between two attempts. -/
  | stale (hw : v.IsWaiting) : Turns now none (v.giveUp, w)
  /-- An attempt begins that takes some time. -/
  | dials {span : Nat} (hw : v.IsWaiting) (hd : (d.dial (d.reset w)).1.delay = some span) :
      Turns now none
        ({ v with phase := .dialing (Timer.due now span) (d.dial (d.reset w)).1.result },
          (d.dial (d.reset w)).2)
  /-- An attempt begins and is over at once. -/
  | prompt (hw : v.IsWaiting) (hd : (d.dial (d.reset w)).1.delay = none) :
      Turns now (some ((d.dial (d.reset w)).1.result, d.arrived (d.dial (d.reset w)).2))
        (v.judge d now (d.dial (d.reset w)).1.result (d.arrived (d.dial (d.reset w)).2))
  /-- An attempt that was under way is over. -/
  | arrives {due : Nat} {result : BusResult} (hp : v.phase = .dialing due result) :
      Turns now (some (result, d.arrived w)) (v.judge d now result (d.arrived w))

variable {v}

theorem arrival?_of_isWaiting (hw : v.IsWaiting) :
    v.arrival? d w =
      if v.isCurrent d w ∧ (d.dial (d.reset w)).1.delay = none then
        some ((d.dial (d.reset w)).1.result, d.arrived (d.dial (d.reset w)).2)
      else none := by
  rcases hw with hp | ⟨due, hp⟩ <;> simp [arrival?, hp]

theorem beginRound_cases (hw : v.IsWaiting) (now : Nat) :
    Turns d v w now (v.arrival? d w) (v.beginRound d now w) := by
  rw [arrival?_of_isWaiting d w hw, beginRound]
  by_cases hn : v.isCurrent d w = true
  · cases hd : (d.dial (d.reset w)).1.delay with
    | none => simpa [hn, hd] using Turns.prompt hw hd
    | some span => simpa [hn, hd] using Turns.dials hw hd
  · simpa [hn] using Turns.stale hw

/-- An attempt that is over in a turn is judged in it. -/
theorem turn_cases {now : Nat} (h : v.isDue now = true) :
    Turns d v w now (v.arrival? d w) (v.turn d now w) := by
  cases hp : v.phase with
  | ready =>
      have hw : v.IsWaiting := Or.inl hp
      rw [turn_of_isDue d hw h]
      exact beginRound_cases d w hw now
  | resting due =>
      have hw : v.IsWaiting := Or.inr ⟨due, hp⟩
      rw [turn_of_isDue d hw h]
      exact beginRound_cases d w hw now
  | dialing due result =>
      have hle : due ≤ now := by simpa [isDue, hp] using h
      have harrives : Turns d v w now (some (result, d.arrived w)) _ := .arrives hp
      simpa [arrival?, turn, hp, hle] using harrives
  | finished o => simp [isDue, hp] at h

theorem isDialing_of_isWaiting (hw : v.IsWaiting) : v.isDialing = false := by
  rcases hw with hp | ⟨due, hp⟩ <;> simp [isDialing, hp]

end Arrivals

end Supervisor

namespace Bench

section Acts

/-- Something that happens on a bench. -/
inductive Act
  | renumber (newest : Nat)
  | keep (name : String)
  | spawn (name : String) (pause : Nat) (script : List Attempt) (resetScript : List Bool)
      (newOnConnected : Bool)
  | turn (place : Nat)
  | wait (span : Nat)

/-- What became of an attempt that is over.  An overtaken one has succeeded, but a newer generation
had been made by then. -/
inductive Fate
  | connected
  | failed
  | overtaken
  deriving DecidableEq

/-- The fate of an attempt; `current` tells whether there is no newer generation when it is over. -/
def Fate.of (result : BusResult) (current : Bool) : Fate :=
  match result with
  | .ok () => if current then .connected else .overtaken
  | .error _ => .failed

/-- An entry of the ledger: an attempt that is over. -/
structure Arrival where
  side : Role
  fate : Fate
  deriving DecidableEq

/-- The supervisor at a place, if it is due. -/
def mover? (place : Nat) (b : Bench) : Option Trial :=
  b.trials[place]?.filter (fun t => t.supervisor.isDue b.now)

/-- What is entered for a turn. -/
def arrivals (b : Bench) (t : Trial) : List Arrival :=
  (t.supervisor.arrival? dialer (t, b)).toList.map
    (fun a => ⟨t.side, .of a.1 (t.supervisor.isCurrent dialer a.2)⟩)

/-- What is entered for an act. -/
def entries (act : Act) (b : Bench) : List Arrival :=
  match act with
  | .turn k => (mover? k b).toList.flatMap (arrivals b)
  | _ => []

/-- Performs an act; `sides` tells the side of each name. -/
def perform (sides : String → Role) (act : Act) (b : Bench) : Bench :=
  match act with
  | .renumber n => { b with newest := n }
  | .keep name => b.keep name
  | .spawn name pause script resetScript flag =>
      b.spawn name (sides name) pause script resetScript flag
  | .turn k =>
      match mover? k b with
      | some t => { (Bench.turn t b).2 with trials := b.trials.set k (Bench.turn t b).1 }
      | none => b
  | .wait span => { b with now := b.now + span }

/-- The bench and its ledger after acts in turn, from the beginning on. -/
def run (sides : String → Role) (acts : List Act) : Bench × List Arrival :=
  acts.foldl (fun x act => (perform sides act x.1, x.2 ++ entries act x.1)) (initial, [])

@[simp] theorem run_concat (sides : String → Role) (acts : List Act) (act : Act) :
    run sides (acts ++ [act]) =
      (perform sides act (run sides acts).1,
        (run sides acts).2 ++ entries act (run sides acts).1) := by
  simp [run]

/-- What a bench does by itself is an act. -/
theorem exists_perform_of_step? {b b' : Bench} (h : timeline.step? b = some b')
    (sides : String → Role) : ∃ k, perform sides (.turn k) b = b' := by
  obtain ⟨pre, t, post, hb, hd, rfl⟩ := stepFrom_eq_some h
  have hmover : mover? pre.length b = some t := by simp [mover?, hb, hd]
  exact ⟨pre.length, by simp [perform, hmover, hb]⟩

end Acts

section Accounts

/-- Attempts that were begun for a side, by the log. -/
def attempted (sides : String → Role) (side : Role) (b : Bench) : Nat :=
  b.log.toList.countP (fun e => e.event.isConnect ∧ sides e.who = side)

/-- Attempts of a side that are under way. -/
def underWay (side : Role) (ts : List Trial) : Nat :=
  ts.countP (fun t => t.side = side ∧ t.supervisor.isDialing)

/-- Attempts of a side that are entered in the ledger. -/
def entered (side : Role) (l : List Arrival) : Nat := l.countP (fun a => a.side = side)

/-- The fate that a counter tells of. -/
def Fate.ofCounter (ok : Bool) : Fate := if ok then .connected else .failed

/-- The account of a bench. -/
structure Balanced (sides : String → Role) (l : List Arrival) (b : Bench) : Prop where
  sided : ∀ t ∈ b.trials, t.side = sides t.name
  attempted : ∀ side, attempted sides side b = entered side l + underWay side b.trials
  counted : ∀ side ok, b.metrics.count (.attempts side ok) = l.count ⟨side, .ofCounter ok⟩

variable {sides : String → Role} {l : List Arrival} {b : Bench} {t : Trial}

@[simp] theorem attempted_note (side : Role) (who : String) (e : TrialEvent) (b : Bench) :
    attempted sides side (b.note who e) =
      attempted sides side b + (e.isConnect && decide (sides who = side)).toNat := by
  cases h : (e.isConnect && decide (sides who = side)) <;>
    simp_all [attempted, note, List.countP_append]

@[simp] theorem attempted_invalidateIf (side : Role) (flag : Bool) (b : Bench) :
    attempted sides side (b.invalidateIf flag) = attempted sides side b := by
  cases flag <;> rfl

@[simp] theorem metrics_invalidateIf (flag : Bool) (b : Bench) :
    (b.invalidateIf flag).metrics = b.metrics := by
  cases flag <;> rfl

theorem ofCounter_injective {ok ok' : Bool} (h : Fate.ofCounter ok = Fate.ofCounter ok') :
    ok = ok' := by
  cases ok <;> cases ok' <;> simp_all [Fate.ofCounter]

/-- An attempt that is counted is entered with the fate that its counter tells of. -/
theorem count_counted (side side' : Role) (ok ok' : Bool) (b : Bench) :
    (b.counted side ok).metrics.count (.attempts side' ok') =
      b.metrics.count (.attempts side' ok') +
        [Arrival.mk side (.ofCounter ok)].count ⟨side', .ofCounter ok'⟩ := by
  by_cases h : Counter.attempts side' ok' = .attempts side ok
  · cases h
    simp [Bench.counted]
  · have hne : Arrival.mk side (.ofCounter ok) ≠ ⟨side', .ofCounter ok'⟩ := by
      intro he
      cases congrArg Arrival.side he
      exact h (by rw [ofCounter_injective (congrArg Arrival.fate he)])
    simp [Bench.counted, Metrics.count_bump_of_ne _ h, hne]

/-- What a supervisor makes of the result of an attempt, by the attempt's fate. -/
theorem judge_surroundings (v : Supervisor) (now : Nat) (result : BusResult) (t : Trial)
    (b : Bench) :
    (v.judge dialer now result (t, b)).2 =
      (t, match Fate.of result (v.isCurrent dialer (t, b)) with
        | .connected =>
            ((b.counted t.side true).note t.name .connected).invalidateIf t.newOnConnected
        | .failed => b.counted t.side false
        | .overtaken => b) := by
  cases result with
  | ok u =>
      by_cases hn : b.newest = v.generation <;>
        simp [Supervisor.judge, Supervisor.isCurrent, dialer, Fate.of, Bench.counted, hn]
  | error f =>
      simp only [Supervisor.judge, Fate.of]
      split <;> rfl

/-- What a supervisor makes of the result of an attempt begins none, and the counters move as the
ledger does. -/
theorem judge_account (sides : String → Role) (v : Supervisor) (now : Nat) (result : BusResult)
    (t : Trial) (b : Bench) :
    (∀ side, attempted sides side (v.judge dialer now result (t, b)).2.2 =
        attempted sides side b) ∧
      ∀ side ok, (v.judge dialer now result (t, b)).2.2.metrics.count (.attempts side ok) =
        b.metrics.count (.attempts side ok) +
          [Arrival.mk t.side (.of result (v.isCurrent dialer (t, b)))].count
            ⟨side, .ofCounter ok⟩ := by
  rw [judge_surroundings]
  cases Fate.of result (v.isCurrent dialer (t, b)) with
  | connected =>
      refine ⟨fun side => ?_, fun side ok => ?_⟩
      · simp [TrialEvent.isConnect]
        rfl
      · rw [metrics_invalidateIf]
        exact count_counted t.side side true ok b
  | failed => exact ⟨fun side => rfl, fun side ok => count_counted t.side side false ok b⟩
  | overtaken =>
      refine ⟨fun side => rfl, fun side ok => ?_⟩
      have hne : Fate.ofCounter ok ≠ .overtaken := by cases ok <;> simp [Fate.ofCounter]
      simp [hne.symm]

theorem fst_close (name : String) (r : Supervisor × Trial × Bench) :
    (close name r).1 = { r.2.1 with supervisor := r.1 } := rfl

@[simp] theorem attempted_close (side : Role) (name : String) (r : Supervisor × Trial × Bench) :
    attempted sides side (close name r).2 = attempted sides side r.2.2 := by
  unfold close
  dsimp only
  split
  · simp [TrialEvent.isConnect]
  · rfl

@[simp] theorem metrics_close (name : String) (r : Supervisor × Trial × Bench) :
    (close name r).2.metrics = r.2.2.metrics := by
  unfold close
  dsimp only
  split <;> rfl

theorem underWay_singleton (side : Role) (t : Trial) :
    underWay side [t] = (decide (t.side = side) && t.supervisor.isDialing).toNat := by
  cases h : (decide (t.side = side) && t.supervisor.isDialing) <;> simp_all [underWay]

theorem entered_singleton (side : Role) (a : Arrival) :
    entered side [a] = (decide (a.side = side)).toNat := by
  by_cases h : a.side = side <;> simp [entered, h]

/-- An attempt that begins stands in the log and changes no counter. -/
theorem dial_account (sides : String → Role) (t : Trial) (b : Bench) :
    (dialer.dial (dialer.reset (t, b))).2.1.side = t.side ∧
      (dialer.dial (dialer.reset (t, b))).2.1.name = t.name ∧
        (∀ side, attempted sides side (dialer.dial (dialer.reset (t, b))).2.2 =
          attempted sides side b + (decide (sides t.name = side)).toNat) ∧
          (dialer.dial (dialer.reset (t, b))).2.2.metrics = b.metrics := by
  refine ⟨rfl, rfl, fun side => ?_, ?_⟩
  · simp [dialer, TrialEvent.isConnect]
  · simp [dialer, note]

/-- An attempt that is over ends, and the counters move as the ledger does. -/
theorem arrived_account (sides : String → Role) (v : Supervisor) (now : Nat) (result : BusResult)
    (name : String) (w : Trial × Bench) {r : Trial × Bench}
    (hr : r = close name (v.judge dialer now result (dialer.arrived w))) :
    r.1.side = w.1.side ∧ r.1.name = w.1.name ∧ r.1.supervisor.isDialing = false ∧
      (∀ side, attempted sides side r.2 = attempted sides side w.2) ∧
        ∀ side ok, r.2.metrics.count (.attempts side ok) =
          w.2.metrics.count (.attempts side ok) +
            [Arrival.mk w.1.side (.of result (v.isCurrent dialer (dialer.arrived w)))].count
              ⟨side, .ofCounter ok⟩ := by
  have harrived : dialer.arrived w = (w.1, w.2.invalidateIf w.1.newAfter) := rfl
  have htrial : (v.judge dialer now result (dialer.arrived w)).2.1 = w.1 := by
    rw [harrived, judge_surroundings]
  have hside := congrArg Trial.side htrial
  have hname := congrArg Trial.name htrial
  obtain ⟨htried, hcount⟩ :=
    judge_account sides v now result w.1 (w.2.invalidateIf w.1.newAfter)
  subst hr
  refine ⟨hside, hname, Supervisor.isDialing_judge dialer now v _ result, fun side => ?_,
    fun side ok => ?_⟩
  · rw [attempted_close, harrived, htried, attempted_invalidateIf]
  · rw [metrics_close, harrived, hcount, metrics_invalidateIf]

/-- What the turn of a supervisor that is due does to the account. -/
theorem turn_account (hd : t.supervisor.isDue b.now = true) (hs : t.side = sides t.name) :
    (Bench.turn t b).1.side = t.side ∧ (Bench.turn t b).1.name = t.name ∧
      (∀ side, attempted sides side (Bench.turn t b).2 + underWay side [t] =
        attempted sides side b + entered side (arrivals b t) + underWay side [(Bench.turn t b).1]) ∧
      ∀ side ok, (Bench.turn t b).2.metrics.count (.attempts side ok) =
        b.metrics.count (.attempts side ok) + (arrivals b t).count ⟨side, .ofCounter ok⟩ := by
  obtain ⟨hside, hname, htried, hmetrics⟩ := dial_account sides t b
  have hwaiting := @Supervisor.isDialing_of_isWaiting t.supervisor
  rw [turn_eq, arrivals]
  have hturns := Supervisor.turn_cases dialer (t, b) hd
  generalize t.supervisor.arrival? dialer (t, b) = a at hturns ⊢
  generalize t.supervisor.turn dialer b.now (t, b) = r at hturns ⊢
  cases hturns with
  | stale hw =>
      refine ⟨rfl, rfl, fun side => ?_, fun side ok => by rw [metrics_close]; rfl⟩
      rw [attempted_close, underWay_singleton, hwaiting hw, underWay_singleton, fst_close]
      simp [entered, Supervisor.giveUp, Supervisor.isDialing]
  | @dials span hw hdelay =>
      refine ⟨hside, hname, fun side => ?_, fun side ok => by rw [metrics_close, hmetrics]; rfl⟩
      rw [attempted_close, htried, underWay_singleton, hwaiting hw, underWay_singleton, fst_close]
      simp [entered, hside, hs, Supervisor.isDialing]
  | prompt hw hdelay =>
      obtain ⟨hside', hname', hidle, htried', hcount'⟩ :=
        arrived_account sides t.supervisor b.now (dialer.dial (dialer.reset (t, b))).1.result t.name
          (dialer.dial (dialer.reset (t, b))).2 rfl
      refine ⟨hside'.trans hside, hname'.trans hname, fun side => ?_, fun side ok => ?_⟩
      · rw [htried', htried, underWay_singleton, underWay_singleton, hwaiting hw, hidle]
        simp [entered_singleton, hs]
      · rw [hcount', hmetrics, hside]
        rfl
  | @arrives due result hp =>
      obtain ⟨hside', hname', hidle, htried', hcount'⟩ := arrived_account sides t.supervisor b.now
        result t.name (t, b) rfl
      have hdialing : t.supervisor.isDialing = true := by simp [Supervisor.isDialing, hp]
      refine ⟨hside', hname', fun side => ?_, hcount'⟩
      rw [htried', underWay_singleton, underWay_singleton, hdialing, hidle]
      simp [entered_singleton]

theorem underWay_append (side : Role) (ts us : List Trial) :
    underWay side (ts ++ us) = underWay side ts + underWay side us :=
  List.countP_append

theorem entered_append (side : Role) (l l' : List Arrival) :
    entered side (l ++ l') = entered side l + entered side l' :=
  List.countP_append

theorem balanced_initial (sides : String → Role) : Balanced sides [] initial where
  sided := by simp [initial]
  attempted _ := rfl
  counted _ _ := rfl

/-- The turn of one supervisor concerns its own attempts only. -/
theorem Balanced.turn {pre post : List Trial} (h : Balanced sides l b)
    (hb : b.trials = pre ++ t :: post) (hd : t.supervisor.isDue b.now = true) :
    Balanced sides (l ++ arrivals b t)
      { (Bench.turn t b).2 with trials := pre ++ (Bench.turn t b).1 :: post } := by
  have hs : t.side = sides t.name := h.sided t (by simp [hb])
  obtain ⟨hside, hname, htried, hcount⟩ := turn_account hd hs
  refine ⟨fun u hu => ?_, fun side => ?_, fun side ok => ?_⟩
  · rcases List.mem_append.mp hu with hu | hu
    · exact h.sided u (by simp [hb, hu])
    · rcases List.mem_cons.mp hu with rfl | hu
      · rw [hside, hname, hs]
      · exact h.sided u (by simp [hb, hu])
  · have hbefore := h.attempted side
    rw [hb, List.append_cons, underWay_append, underWay_append] at hbefore
    have hturn := htried side
    show Bench.attempted sides side (Bench.turn t b).2 = entered side (l ++ arrivals b t) +
      underWay side (pre ++ (Bench.turn t b).1 :: post)
    rw [List.append_cons, underWay_append, underWay_append, entered_append]
    omega
  · rw [List.count_append, ← h.counted]
    exact hcount side ok

theorem Balanced.perform (h : Balanced sides l b) (act : Act) :
    Balanced sides (l ++ entries act b) (Bench.perform sides act b) := by
  have hidle : Balanced sides (l ++ []) b := by rwa [List.append_nil]
  cases act with
  | renumber n => exact ⟨hidle.sided, hidle.attempted, hidle.counted⟩
  | keep name => exact ⟨hidle.sided, hidle.attempted, hidle.counted⟩
  | wait span => exact ⟨hidle.sided, hidle.attempted, hidle.counted⟩
  | spawn name pause script resetScript flag =>
      refine ⟨fun u hu => ?_, fun side => ?_, hidle.counted⟩
      · rcases List.mem_append.mp hu with hu | hu
        · exact h.sided u hu
        · obtain rfl := List.mem_singleton.mp hu
          rfl
      · show Bench.attempted sides side b = _ + underWay side (b.trials ++ [_])
        rw [hidle.attempted, underWay_append, underWay_singleton]
        simp [Supervisor.create, Supervisor.isDialing, entries]
  | turn k =>
      cases hm : mover? k b with
      | none => simpa [Bench.perform, entries, hm] using hidle
      | some t =>
          obtain ⟨ht, hd⟩ := Option.filter_eq_some_iff.mp hm
          obtain ⟨hlt, hget⟩ := List.getElem?_eq_some_iff.mp ht
          have hb : b.trials = b.trials.take k ++ t :: b.trials.drop (k + 1) := by
            rw [← hget, ← List.drop_eq_getElem_cons hlt, List.take_append_drop]
          have hturn := h.turn hb hd
          simpa [Bench.perform, entries, hm, List.set_eq_take_append_cons_drop, hlt] using hturn

/-- The account is in balance after any acts. -/
theorem balanced_run (sides : String → Role) (acts : List Act) :
    Balanced sides (run sides acts).2 (run sides acts).1 := by
  induction acts using List.reverseRecOn with
  | nil => exact balanced_initial sides
  | append_singleton acts act ih =>
      rw [run_concat]
      exact ih.perform act

/-- An attempt that is over has been connected, has failed, or was overtaken. -/
theorem entered_eq_add (side : Role) (l : List Arrival) :
    entered side l = l.count ⟨side, .connected⟩ + l.count ⟨side, .failed⟩ +
      l.count ⟨side, .overtaken⟩ := by
  induction l with
  | nil => rfl
  | cons a l ih =>
      obtain ⟨side', fate⟩ := a
      have hentered : entered side (⟨side', fate⟩ :: l) =
          entered side [⟨side', fate⟩] + entered side l :=
        entered_append side [_] l
      rw [hentered, ih, entered_singleton]
      by_cases h : side' = side <;> cases fate <;> simp [h] <;> omega

/-- Whatever happens on the bench, the attempts that were begun for a side are those that are over
and those under way.  The counters tell how many of those that are over have been connected and
how many have failed.  Together they tell how many are over just if no success was overtaken. -/
theorem attempts_accounted (sides : String → Role) (acts : List Act) (side : Role) :
    attempted sides side (run sides acts).1 =
        entered side (run sides acts).2 + underWay side (run sides acts).1.trials ∧
      (run sides acts).1.metrics.count (.attempts side true) =
        (run sides acts).2.count ⟨side, .connected⟩ ∧
      (run sides acts).1.metrics.count (.attempts side false) =
        (run sides acts).2.count ⟨side, .failed⟩ ∧
      (entered side (run sides acts).2 =
          (run sides acts).1.metrics.count (.attempts side true) +
            (run sides acts).1.metrics.count (.attempts side false) ↔
        ⟨side, .overtaken⟩ ∉ (run sides acts).2) := by
  have h := balanced_run sides acts
  have hconnected := h.counted side true
  have hfailed := h.counted side false
  refine ⟨h.attempted side, hconnected, hfailed, ?_⟩
  rw [hconnected, hfailed, entered_eq_add, ← List.count_eq_zero]
  simp [Fate.ofCounter]

/-- A supervisor is overtaken while an attempt is under way that will succeed. -/
def demoActs : List Act :=
  [.spawn "a" 20 [⟨"slow", ⟨some 10, .ok ()⟩, false, false⟩] [] false, .turn 0, .wait 5,
    .renumber 2, .wait 5, .turn 0]

/-- A success that was overtaken is over, but no counter tells of it. -/
theorem overtaken_success_uncounted :
    ¬ ∀ (sides : String → Role) (acts : List Act) (side : Role),
      entered side (run sides acts).2 =
        (run sides acts).1.metrics.count (.attempts side true) +
          (run sides acts).1.metrics.count (.attempts side false) := by
  intro h
  have hone := h (fun _ => .adapter) demoActs .adapter
  revert hone
  decide

end Accounts

end Bench
end QuoteBridge
