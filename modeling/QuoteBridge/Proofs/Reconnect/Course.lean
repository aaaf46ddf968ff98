import QuoteBridge.Proofs.Reconnect.Turn
import QuoteBridge.Reconnect.Bench

/-!
# Courses of supervisors

The course of a supervisor is all that it would do if it were never overtaken: rounds that fail,
with a pause after each of them, and one that succeeds.  On the bench a supervisor follows its
course up to some point; if it is overtaken it ends there.

**Input.**  Supervisors made at any times with any scripts, and a generation number that may be
advanced at any moment, be it while an attempt is under way or during a pause.  Time moves on when
nothing is left to do, and never past the instant that a supervisor waits for.

**Results.**
* `Bench.countP_course`: how often each kind of event occurs in a course.
* `Bench.turn_effect`: what a turn adds to the log.
* `Bench.Stands.turn`: a supervisor's own turn leaves it on its course, or overtaken there.
-/

namespace QuoteBridge

deriving instance DecidableEq for TrialEvent

/-- Whether an event is the beginning of an attempt. -/
def TrialEvent.isConnect : TrialEvent → Bool
  | .connect _ => true
  | _ => false

/-- The instant at which an attempt that begins at some time is over. -/
def Dial.over (d : Dial) (t : Nat) : Nat :=
  match d.delay with
  | none => t
  | some span => Timer.due t span

namespace Bench

section Running

/-- Runs of a bench.  Whoever is due may go on, and a new supervisor has a name of its own. -/
inductive Run : Bench → Bench → Prop
  | refl (b : Bench) : Run b b
  | invalidated {b₀ b : Bench} (hr : Run b₀ b) : Run b₀ b.invalidate
  | kept (name : String) {b₀ b : Bench} (hr : Run b₀ b) : Run b₀ (b.keep name)
  | spawned (name : String) (side : Role) (pause : Nat) (script : List Attempt)
      (newOnConnected : Bool) {b₀ b : Bench} (hr : Run b₀ b)
      (hn : ∀ u ∈ b.trials, u.name ≠ name) :
      Run b₀ (b.spawn name side pause script [] newOnConnected)
  | turned {b₀ b : Bench} {pre post : List Trial} {t : Trial} (hr : Run b₀ b)
      (hb : b.trials = pre ++ t :: post) (hd : t.supervisor.isDue b.now = true) :
      Run b₀ { (turn t b).2 with trials := pre ++ (turn t b).1 :: post }
  | waited (t : Nat) {b₀ b : Bench} (hr : Run b₀ b) (hs : timeline.step? b = none)
      (ht : b.now ≤ t) (hw : ∀ u ∈ b.trials, ∀ wake ∈ u.supervisor.wake?, t ≤ wake) :
      Run b₀ { b with now := t }

theorem Run.trans {b₁ b₂ b₃ : Bench} (h : Run b₁ b₂) (h' : Run b₂ b₃) : Run b₁ b₃ := by
  induction h' with
  | refl b => exact h
  | invalidated hr ih => exact .invalidated (ih h)
  | kept name hr ih => exact .kept name (ih h)
  | spawned name side pause script flag hr hn ih =>
      exact .spawned name side pause script flag (ih h) hn
  | turned hr hb hd ih => exact .turned (ih h) hb hd
  | waited t hr hs ht hw ih => exact .waited t (ih h) hs ht hw

end Running

section Courses

/-- What one supervisor did, with the times. -/
def deeds (name : String) (b : Bench) : List (Nat × TrialEvent) :=
  (b.log.toList.filter (fun e => e.who = name)).map (fun e => (e.time, e.event))

/-- What a supervisor whose round begins at some time does if it is never overtaken; `rest` tells
when a pause is over that begins at some time. -/
def course (rest : Nat → Nat) : Nat → List Attempt → List (Nat × TrialEvent)
  | t, [] =>
      [(t, .reset), (t, .connect Attempt.plain.label), (t, .connected), (t, .ended .connected)]
  | t, a :: as =>
      (t, .reset) :: (t, .connect a.label) ::
        match a.dial.result with
        | .ok () => [(a.dial.over t, .connected), (a.dial.over t, .ended .connected)]
        | .error _ => course rest (rest (a.dial.over t)) as

/-- The number of attempts that fail before the first one that succeeds. -/
def failures : List Attempt → Nat
  | [] => 0
  | a :: as =>
      match a.dial.result with
      | .ok () => 0
      | .error _ => failures as + 1

/-- What it does once an attempt is over. -/
def sequel (rest : Nat → Nat) (t : Nat) (result : BusResult) (script : List Attempt) :
    List (Nat × TrialEvent) :=
  match result with
  | .ok () => [(t, .connected), (t, .ended .connected)]
  | .error _ => course rest (rest t) script

theorem course_eq (rest : Nat → Nat) (t : Nat) (script : List Attempt) :
    course rest t script =
      (t, .reset) :: (t, .connect (script.headD .plain).label) ::
        sequel rest ((script.headD .plain).dial.over t) (script.headD .plain).dial.result
          script.tail := by
  cases script with
  | nil => rfl
  | cons a as => rfl

/-- How often an event of some kind occurs in a course. -/
theorem countP_course (p : TrialEvent → Bool) (hp : ∀ l l', p (.connect l) = p (.connect l'))
    (rest : Nat → Nat) (t : Nat) (script : List Attempt) :
    (course rest t script).countP (fun d => p d.2) =
      (failures script + 1) * ((p .reset).toNat + (p (.connect "")).toNat) +
        ((p .connected).toNat + (p (.ended .connected)).toNat) := by
  have hone : ∀ (d : Nat × TrialEvent) ds, (d :: ds).countP (fun d => p d.2) =
      (p d.2).toNat + ds.countP (fun d => p d.2) := by
    intro d ds
    rw [List.countP_cons]
    cases p d.2 <;> simp [Nat.add_comm]
  induction script generalizing t with
  | nil =>
      simp only [course, hone, List.countP_nil, failures, hp Attempt.plain.label ""]
      omega
  | cons a as ih =>
      simp only [course, failures]
      cases a.dial.result with
      | ok u =>
          simp only [hone, List.countP_nil, hp a.label ""]
          omega
      | error f =>
          simp only [hone, ih, hp a.label "", Nat.add_mul]
          omega

theorem countP_course_connected (rest : Nat → Nat) (t : Nat) (script : List Attempt) :
    (course rest t script).countP (fun d => d.2 = .connected) = 1 := by
  have h := countP_course (fun e => e = .connected) (by simp) rest t script
  simpa using h

theorem countP_course_ended (rest : Nat → Nat) (t : Nat) (script : List Attempt) :
    (course rest t script).countP (fun d => d.2 = .ended .connected) = 1 := by
  have h := countP_course (fun e => e = .ended .connected) (by simp) rest t script
  simpa using h

variable {rest : Nat → Nat} {t : Nat}

theorem countP_sequel_connected (result : BusResult) (script : List Attempt) :
    (sequel rest t result script).countP (fun d => d.2 = .connected) = 1 := by
  cases result with
  | ok u => simp [sequel]
  | error f => exact countP_course_connected rest (rest t) script

theorem countP_sequel_ended (result : BusResult) (script : List Attempt) :
    (sequel rest t result script).countP (fun d => d.2 = .ended .connected) = 1 := by
  cases result with
  | ok u => simp [sequel]
  | error f => exact countP_course_ended rest (rest t) script

theorem le_over (d : Dial) (t : Nat) : t ≤ d.over t := by
  unfold Dial.over
  split
  · exact Nat.le_refl _
  · exact Nat.le_add_right _ _

theorem over_of_none {d : Dial} (h : d.delay = none) (t : Nat) : d.over t = t := by
  simp [Dial.over, h]

theorem over_of_some {d : Dial} {span : Nat} (h : d.delay = some span) (t : Nat) :
    d.over t = Timer.due t span := by
  simp [Dial.over, h]

/-- A course does not go back in time. -/
theorem le_of_mem_course (hrest : ∀ s, s ≤ rest s) {script : List Attempt}
    {d : Nat × TrialEvent} (h : d ∈ course rest t script) : t ≤ d.1 := by
  induction script generalizing t with
  | nil =>
      simp only [course, List.mem_cons, List.not_mem_nil, or_false] at h
      rcases h with rfl | rfl | rfl | rfl <;> exact Nat.le_refl _
  | cons a as ih =>
      have hover := le_over a.dial t
      simp only [course, List.mem_cons] at h
      rcases h with rfl | rfl | h
      · exact Nat.le_refl _
      · exact Nat.le_refl _
      · cases hr : a.dial.result with
        | ok u =>
            simp only [hr, List.mem_cons, List.not_mem_nil, or_false] at h
            rcases h with rfl | rfl <;> exact hover
        | error f =>
            rw [hr] at h
            exact Nat.le_trans hover (Nat.le_trans (hrest _) (ih h))

theorem le_of_mem_sequel (hrest : ∀ s, s ≤ rest s) {result : BusResult} {script : List Attempt}
    {d : Nat × TrialEvent} (h : d ∈ sequel rest t result script) : t ≤ d.1 := by
  cases result with
  | ok u =>
      simp only [sequel, List.mem_cons, List.not_mem_nil, or_false] at h
      rcases h with rfl | rfl <;> exact Nat.le_refl _
  | error f => exact Nat.le_trans (hrest t) (le_of_mem_course hrest h)

/-- What a supervisor has yet to do if it is never overtaken. -/
def ahead (now : Nat) (t : Trial) : List (Nat × TrialEvent) :=
  let rest := fun s => Timer.due s t.supervisor.pause
  match t.supervisor.phase with
  | .ready => course rest now t.script
  | .dialing due result => sequel rest due result t.script
  | .resting due => course rest due t.script
  | .finished _ => []

end Courses

section Turning

/-- The end of a turn: a supervisor that has ended says so. -/
def close (name : String) (r : Supervisor × Trial × Bench) : Trial × Bench :=
  ({ r.2.1 with supervisor := r.1 },
    match r.1.phase with
    | .finished o => r.2.2.note name (.ended o)
    | _ => r.2.2)

theorem turn_eq (t : Trial) (b : Bench) :
    turn t b = close t.name (t.supervisor.turn dialer b.now (t, b)) := by
  simp only [turn, close]
  split <;> simp_all

/-- What a turn of a trial leaves alone, and the events that it adds to the log. -/
structure Adds (t : Trial) (b : Bench) (es : List TrialEvent) (r : Trial × Bench) : Prop where
  name : r.1.name = t.name
  resetScript : r.1.resetScript = t.resetScript
  generation : r.1.supervisor.generation = t.supervisor.generation
  pause : r.1.supervisor.pause = t.supervisor.pause
  now : r.2.now = b.now
  newest : b.newest ≤ r.2.newest
  log : r.2.log.toList = b.log.toList ++ es.map (fun e => ⟨b.now, t.name, e⟩)

@[simp] theorem newest_invalidateIf (flag : Bool) (b : Bench) :
    (b.invalidateIf flag).newest = b.newest + flag.toNat := by
  cases flag <;> rfl

@[simp] theorem now_invalidateIf (flag : Bool) (b : Bench) : (b.invalidateIf flag).now = b.now := by
  cases flag <;> rfl

@[simp] theorem log_invalidateIf (flag : Bool) (b : Bench) : (b.invalidateIf flag).log = b.log := by
  cases flag <;> rfl

/-- An attempt counted for a side. -/
def counted (side : Role) (ok : Bool) (b : Bench) : Bench :=
  { b with metrics := b.metrics.bump (.attempts side ok) }

/-- What comes of an attempt that is over: the events, the phase, and the newest generation
afterwards.  `newest` is the newest generation before. -/
inductive Judged (generation rested newest : Nat) (flag : Bool) (result : BusResult) :
    List TrialEvent → Phase → Nat → Prop
  | connected (hn : newest ≤ generation) (hr : result = .ok ()) :
      Judged generation rested newest flag result [.connected, .ended .connected]
        (.finished .connected) (generation + flag.toNat)
  | rests {f : BusError} (hn : newest ≤ generation) (hr : result = .error f) :
      Judged generation rested newest flag result [] (.resting rested) generation
  | overtaken {newest' : Nat} (hn : newest' ≠ generation) :
      Judged generation rested newest flag result [.ended .superseded] (.finished .superseded)
        newest'

theorem Judged.mono {generation rested newest newest' n : Nat} {flag : Bool} {result : BusResult}
    {es : List TrialEvent} {p : Phase} (h : Judged generation rested newest' flag result es p n)
    (hn : newest ≤ newest') : Judged generation rested newest flag result es p n := by
  cases h with
  | connected hle hr => exact .connected (Nat.le_trans hn hle) hr
  | rests hle hr => exact .rests (Nat.le_trans hn hle) hr
  | overtaken hne => exact .overtaken hne

theorem judge_ok (v : Supervisor) (u : Unit) (t : Trial) (b : Bench) :
    v.judge dialer b.now (.ok u) (t, b) =
      if b.newest = v.generation then
        ({ v with phase := .finished .connected }, t,
          ((b.counted t.side true).note t.name .connected).invalidateIf t.newOnConnected)
      else (v.giveUp, t, b) := by
  simp [Supervisor.judge, Supervisor.isCurrent, dialer, counted]

theorem judge_error (v : Supervisor) (f : BusError) (t : Trial) (b : Bench) :
    v.judge dialer b.now (.error f) (t, b) =
      if b.newest = v.generation then
        ({ v with phase := .resting (Timer.due b.now v.pause) }, t, b.counted t.side false)
      else (v.giveUp, t, b.counted t.side false) := by
  simp [Supervisor.judge, Supervisor.isCurrent, dialer, counted]

/-- What comes of a judged attempt, and that nothing else is added to the log. -/
def Closes (v : Supervisor) (result : BusResult) (t : Trial) (b : Bench) (r : Trial × Bench) :
    Prop :=
  ∃ es, Judged v.generation (Timer.due b.now v.pause) b.newest t.newOnConnected result es
      r.1.supervisor.phase r.2.newest ∧
    Adds { t with supervisor := v } b es r ∧ r.1.script = t.script

theorem closes_giveUp {v : Supervisor} (result : BusResult) (t : Trial) {b c : Bench}
    (hn : b.newest ≠ v.generation) (hnewest : c.newest = b.newest) (hnow : c.now = b.now)
    (hlog : c.log = b.log) : Closes v result t b (close t.name (v.giveUp, t, c)) := by
  refine ⟨[.ended .superseded], .overtaken ?_, ⟨rfl, rfl, rfl, rfl, hnow, ?_, ?_⟩, rfl⟩
  · rw [← hnewest] at hn
    exact hn
  · exact Nat.le_of_eq hnewest.symm
  · simp [close, Supervisor.giveUp, note, hlog, hnow]

/-- What a supervisor makes of the result of an attempt. -/
theorem closes_judge (v : Supervisor) (result : BusResult) (t : Trial) (b : Bench) :
    Closes v result t b (close t.name (v.judge dialer b.now result (t, b))) := by
  cases result with
  | ok u =>
      rw [judge_ok]
      split
      · rename_i hn
        refine ⟨[.connected, .ended .connected], ?_, ⟨rfl, rfl, rfl, rfl, ?_, ?_, ?_⟩, rfl⟩
        · have hj : Judged v.generation (Timer.due b.now v.pause) b.newest t.newOnConnected (.ok u)
              [.connected, .ended .connected] (.finished .connected)
              (v.generation + t.newOnConnected.toNat) := .connected (Nat.le_of_eq hn) rfl
          simpa [close, note, counted, hn] using hj
        · simp [close, note, counted]
        · simp [close, note, counted]
        · simp [close, note, counted]
      · rename_i hn
        exact closes_giveUp _ t hn rfl rfl rfl
  | error f =>
      rw [judge_error]
      split
      · rename_i hn
        refine ⟨[], ?_, ⟨rfl, rfl, rfl, rfl, rfl, Nat.le_refl _, ?_⟩, rfl⟩
        · show Judged _ _ _ _ _ _ _ b.newest
          rw [hn]
          exact .rests (Nat.le_refl _) rfl
        · simp [close, counted]
      · rename_i hn
        exact closes_giveUp _ t hn rfl rfl rfl

/-- What a turn adds to the log, and the phase, the script and the newest generation after it. -/
inductive Turned (t : Trial) (b : Bench) : List TrialEvent → Phase → List Attempt → Nat → Prop
  /-- The supervisor was overtaken while it waited. -/
  | stale (hw : t.supervisor.IsWaiting) (hn : b.newest ≠ t.supervisor.generation) :
      Turned t b [.ended .superseded] (.finished .superseded) t.script b.newest
  /-- An attempt begins that takes some time. -/
  | dials {span n : Nat} (hw : t.supervisor.IsWaiting) (hn : b.newest = t.supervisor.generation)
      (hd : (t.script.headD .plain).dial.delay = some span) :
      Turned t b [.reset, .connect (t.script.headD .plain).label]
        (.dialing (Timer.due b.now span) (t.script.headD .plain).dial.result) t.script.tail n
  /-- An attempt begins and is over at once. -/
  | prompt {es : List TrialEvent} {p : Phase} {n : Nat} (hw : t.supervisor.IsWaiting)
      (hn : b.newest = t.supervisor.generation)
      (hd : (t.script.headD .plain).dial.delay = none)
      (hj : Judged t.supervisor.generation (Timer.due b.now t.supervisor.pause) b.newest
        t.newOnConnected (t.script.headD .plain).dial.result es p n) :
      Turned t b (.reset :: .connect (t.script.headD .plain).label :: es) p t.script.tail n
  /-- An attempt is over. -/
  | arrives {due : Nat} {result : BusResult} {es : List TrialEvent} {p : Phase} {n : Nat}
      (hp : t.supervisor.phase = .dialing due result)
      (hj : Judged t.supervisor.generation (Timer.due b.now t.supervisor.pause) b.newest
        t.newOnConnected result es p n) :
      Turned t b es p t.script n

theorem Adds.trans {t : Trial} {b : Bench} {es es' : List TrialEvent} {r r' : Trial × Bench}
    (h : Adds t b es r) (h' : Adds r.1 r.2 es' r') : Adds t b (es ++ es') r' where
  name := h'.name.trans h.name
  resetScript := h'.resetScript.trans h.resetScript
  generation := h'.generation.trans h.generation
  pause := h'.pause.trans h.pause
  now := h'.now.trans h.now
  newest := Nat.le_trans h.newest h'.newest
  log := by rw [h'.log, h.log, h.name, h.now]; simp

/-- The trial and the bench once an attempt was begun. -/
def begun (t : Trial) (b : Bench) : Trial × Bench :=
  let a := t.script.headD .plain
  ({ t with script := t.script.tail, newAfter := a.newAfter },
    ((b.note t.name .reset).note t.name (.connect a.label)).invalidateIf a.newBefore)

/-- Whether a newer generation is made when an attempt is over does not show in the log. -/
theorem Adds.arrived (t : Trial) (b : Bench) :
    Adds t b [] (t, b.invalidateIf t.newAfter) :=
  ⟨rfl, rfl, rfl, rfl, by simp, by simp, by simp⟩

theorem begun_adds (t : Trial) (b : Bench) :
    Adds t b [.reset, .connect (t.script.headD .plain).label] (begun t b) :=
  ⟨rfl, rfl, rfl, rfl, by simp [begun, note], by simp [begun, note], by simp [begun, note]⟩

/-- An attempt is over, and its result is judged. -/
theorem closes_arrived (v : Supervisor) (result : BusResult) (t : Trial) (b : Bench) :
    Closes v result t b (close t.name (v.judge dialer b.now result (dialer.arrived (t, b)))) := by
  obtain ⟨es, hj, hadds, hscript⟩ := closes_judge v result t (b.invalidateIf t.newAfter)
  have harrived := Adds.arrived { t with supervisor := v } b
  rw [now_invalidateIf] at hj hadds hscript
  exact ⟨es, hj.mono harrived.newest, harrived.trans hadds, hscript⟩

/-- What an effect of a turn is, of whatever the turn comes to. -/
def TurnsTo (t : Trial) (b : Bench) (r : Trial × Bench) : Prop :=
  ∃ es, Turned t b es r.1.supervisor.phase r.1.script r.2.newest ∧ Adds t b es r

/-- A round that begins. -/
theorem turnsTo_beginRound {t : Trial} {b : Bench} (hr : t.resetScript = [])
    (hw : t.supervisor.IsWaiting) :
    TurnsTo t b (close t.name (t.supervisor.beginRound dialer b.now (t, b))) := by
  by_cases hn : b.newest = t.supervisor.generation
  · have hcur : t.supervisor.isCurrent dialer (t, b) = true := by
      simp [Supervisor.isCurrent, dialer, hn]
    have hdial : dialer.dial (dialer.reset (t, b)) =
        ((t.script.headD .plain).dial, begun t b) := by
      simp [dialer, hr, begun, invalidateIf]
    cases hdelay : (t.script.headD .plain).dial.delay with
    | none =>
        have hround : t.supervisor.beginRound dialer b.now (t, b) =
            t.supervisor.judge dialer b.now (t.script.headD .plain).dial.result
              (dialer.arrived (begun t b)) := by
          simp only [Supervisor.beginRound, hcur, if_true, hdial, hdelay]
        have hbegun := begun_adds t b
        obtain ⟨es, hj, hadds, hscript⟩ := closes_arrived t.supervisor
          (t.script.headD .plain).dial.result (begun t b).1 (begun t b).2
        rw [hbegun.now] at hj hadds hscript
        rw [hround]
        refine ⟨_, ?_, hbegun.trans hadds⟩
        rw [show (close t.name _).1.script = t.script.tail from hscript]
        exact .prompt hw hn hdelay (hj.mono hbegun.newest)
    | some span =>
        have hround : t.supervisor.beginRound dialer b.now (t, b) =
            ({ t.supervisor with
              phase := .dialing (Timer.due b.now span) (t.script.headD .plain).dial.result },
              begun t b) := by
          simp only [Supervisor.beginRound, hcur, if_true, hdial, hdelay]
        rw [hround]
        obtain ⟨hname, hreset, hgen, hpause, hnow, hnewest, hlog⟩ := begun_adds t b
        exact ⟨_, .dials hw hn hdelay, ⟨hname, hreset, rfl, rfl, hnow, hnewest, hlog⟩⟩
  · have hround : t.supervisor.beginRound dialer b.now (t, b) = (t.supervisor.giveUp, t, b) := by
      simp [Supervisor.beginRound, Supervisor.isCurrent, dialer, hn]
    rw [hround]
    exact ⟨[.ended .superseded], .stale hw hn,
      ⟨rfl, rfl, rfl, rfl, rfl, Nat.le_refl _, by simp [close, Supervisor.giveUp, note]⟩⟩

theorem turn_effect {t : Trial} {b : Bench} (hr : t.resetScript = [])
    (hd : t.supervisor.isDue b.now = true) : TurnsTo t b (turn t b) := by
  rw [turn_eq]
  cases hp : t.supervisor.phase with
  | ready =>
      have hturn : t.supervisor.turn dialer b.now (t, b) =
          t.supervisor.beginRound dialer b.now (t, b) := by simp only [Supervisor.turn, hp]
      rw [hturn]
      exact turnsTo_beginRound hr (Or.inl hp)
  | resting due =>
      have hw : t.supervisor.IsWaiting := Or.inr ⟨due, hp⟩
      rw [Supervisor.turn_of_isDue dialer hw hd]
      exact turnsTo_beginRound hr hw
  | dialing due result =>
      have hle : due ≤ b.now := by simpa [Supervisor.isDue, hp] using hd
      have hturn : t.supervisor.turn dialer b.now (t, b) =
          t.supervisor.judge dialer b.now result (dialer.arrived (t, b)) := by
        simp only [Supervisor.turn, hp, hle, if_true]
      rw [hturn]
      obtain ⟨es, hj, hadds, hscript⟩ := closes_arrived t.supervisor result t b
      refine ⟨es, ?_, hadds⟩
      rw [hscript]
      exact .arrives hp hj
  | finished o => simp [Supervisor.isDue, hp] at hd

end Turning

section Following

/-- The events of a turn as deeds. -/
def stamped (now : Nat) (es : List TrialEvent) : List (Nat × TrialEvent) :=
  es.map (fun e => (now, e))

theorem deeds_adds_self {t : Trial} {b : Bench} {es : List TrialEvent} {r : Trial × Bench}
    (h : Adds t b es r) : deeds t.name r.2 = deeds t.name b ++ stamped b.now es := by
  have hall : es.filter (fun _ => true) = es := List.filter_eq_self.mpr (by simp)
  simp [deeds, stamped, h.log, List.filter_map, Function.comp_def, hall]

theorem deeds_adds_of_ne {t : Trial} {b : Bench} {es : List TrialEvent} {r : Trial × Bench}
    (h : Adds t b es r) {name : String} (hn : name ≠ t.name) : deeds name r.2 = deeds name b := by
  have hne : ¬ t.name = name := fun h => hn h.symm
  simp [deeds, h.log, List.filter_map, Function.comp_def, hne]

/-- A supervisor is at some point of its course, or was overtaken there. -/
inductive Stands (c : List (Nat × TrialEvent)) (u : Trial) (b : Bench) : Prop
  | onCourse (h : deeds u.name b ++ ahead b.now u = c)
      (hp : u.supervisor.phase ≠ .finished .superseded) (ht : ∀ d ∈ deeds u.name b, d.1 ≤ b.now)
  | overtaken {k t : Nat} (h : deeds u.name b = c.take k ++ [(t, .ended .superseded)])
      (hp : u.supervisor.phase = .finished .superseded)
      (hc : ∀ t, (t, .connected) ∉ deeds u.name b ∧ (t, .ended .connected) ∉ deeds u.name b)
      (hn : u.supervisor.generation < b.newest)

variable {c : List (Nat × TrialEvent)} {t u u' : Trial} {b b' : Bench}

/-- A supervisor does not notice what changes neither it nor its deeds. -/
theorem Stands.same (h : Stands c u b) (hd : deeds u.name b' = deeds u.name b)
    (hn : b'.now = b.now) (hnewest : b.newest ≤ b'.newest) : Stands c u b' := by
  cases h with
  | onCourse h hp ht => exact .onCourse (by rw [hd, hn]; exact h) hp (by rw [hd, hn]; exact ht)
  | overtaken h hp hc hg =>
      exact .overtaken (hd.trans h) hp (by rw [hd]; exact hc) (Nat.lt_of_lt_of_le hg hnewest)

theorem mem_stamped {now : Nat} {es : List TrialEvent} {d : Nat × TrialEvent}
    (h : d ∈ stamped now es) : d.1 = now := by
  obtain ⟨e, -, rfl⟩ := List.mem_map.mp h
  rfl

/-- Neither success nor the end of success comes before what holds both. -/
theorem not_connected_of_append {ds rest : List (Nat × TrialEvent)}
    (hc : (ds ++ rest).countP (fun d => d.2 = .connected) = 1)
    (he : (ds ++ rest).countP (fun d => d.2 = .ended .connected) = 1)
    (hc' : rest.countP (fun d => d.2 = .connected) = 1)
    (he' : rest.countP (fun d => d.2 = .ended .connected) = 1) (t : Nat) :
    (t, .connected) ∉ ds ∧ (t, .ended .connected) ∉ ds := by
  rw [List.countP_append] at hc he
  have hzero : ds.countP (fun d => d.2 = .connected) = 0 := by omega
  have hzero' : ds.countP (fun d => d.2 = .ended .connected) = 0 := by omega
  constructor
  · intro hm
    exact List.countP_eq_zero.mp hzero _ hm (by simp)
  · intro hm
    exact List.countP_eq_zero.mp hzero' _ hm (by simp)

/-- What comes of a judged attempt leaves the supervisor on its course, or overtaken there. -/
theorem Stands.ofJudged (ds : List (Nat × TrialEvent)) {result : BusResult} {m : Nat} {flag : Bool}
    {es : List TrialEvent}
    (hj : Judged u'.supervisor.generation (Timer.due b'.now u'.supervisor.pause) m flag result es
      u'.supervisor.phase b'.newest)
    (hcourse : c = ds ++ sequel (fun s => Timer.due s u'.supervisor.pause) b'.now result u'.script)
    (hc : c.countP (fun d => d.2 = .connected) = 1)
    (he : c.countP (fun d => d.2 = .ended .connected) = 1)
    (hd : deeds u'.name b' = ds ++ stamped b'.now es) (ht : ∀ d ∈ ds, d.1 ≤ b'.now)
    (hg : u'.supervisor.generation ≤ b'.newest) : Stands c u' b' := by
  have hpast : ∀ d ∈ deeds u'.name b', d.1 ≤ b'.now := by
    rw [hd]
    intro d hm
    rcases List.mem_append.mp hm with hm | hm
    · exact ht d hm
    · exact Nat.le_of_eq (mem_stamped hm)
  generalize hp : u'.supervisor.phase = p at hj
  generalize hn : b'.newest = n at hj
  cases hj with
  | connected hle hr =>
      refine .onCourse ?_ (by simp [hp]) hpast
      rw [hd, hcourse, hr]
      simp [ahead, hp, sequel, stamped]
  | rests hle hr =>
      refine .onCourse ?_ (by simp [hp]) hpast
      rw [hd, hcourse, hr]
      simp [ahead, hp, sequel, stamped]
  | overtaken hne =>
      have hnot := not_connected_of_append (hcourse ▸ hc) (hcourse ▸ he)
        (countP_sequel_connected _ _) (countP_sequel_ended _ _)
      refine .overtaken (k := ds.length) (t := b'.now) ?_ hp (fun t => ?_) ?_
      · rw [hd, hcourse, List.take_left]
        rfl
      · rw [hd]
        simpa [stamped] using hnot t
      · omega

theorem ahead_of_waiting (hw : t.supervisor.IsWaiting) (hd : t.supervisor.isDue b.now = true)
    (hp : ∀ wake ∈ t.supervisor.wake?, b.now ≤ wake) :
    ahead b.now t = course (fun s => Timer.due s t.supervisor.pause) b.now t.script := by
  rcases hw with hw | ⟨due, hw⟩
  · simp [ahead, hw]
  · have hle : due ≤ b.now := by simpa [Supervisor.isDue, hw] using hd
    have hge : b.now ≤ due := hp due (by simp [Supervisor.wake?, hw])
    simp [ahead, hw, Nat.le_antisymm hle hge]

/-- A supervisor's own turn. -/
theorem Stands.turn (h : Stands c t b) (hc : c.countP (fun d => d.2 = .connected) = 1)
    (he : c.countP (fun d => d.2 = .ended .connected) = 1) (hr : t.resetScript = [])
    (hd : t.supervisor.isDue b.now = true)
    (hpunctual : ∀ wake ∈ t.supervisor.wake?, b.now ≤ wake)
    (hg : t.supervisor.generation ≤ b.newest) : Stands c (Bench.turn t b).1 (Bench.turn t b).2 := by
  obtain ⟨es, hturned, hadds⟩ := turn_effect hr hd
  generalize Bench.turn t b = r at hturned hadds ⊢
  have hdeeds : deeds r.1.name r.2 = deeds t.name b ++ stamped b.now es := by
    rw [hadds.name, deeds_adds_self hadds]
  have hg' : r.1.supervisor.generation ≤ r.2.newest := by
    rw [hadds.generation]
    exact Nat.le_trans hg hadds.newest
  cases h with
  | overtaken h hp hc hn => simp [Supervisor.isDue, hp] at hd
  | onCourse h hp ht =>
      generalize hphase : r.1.supervisor.phase = p at hturned
      generalize hscript : r.1.script = script at hturned
      generalize hnewest : r.2.newest = n at hturned
      cases hturned with
      | stale hw hn =>
          have hahead := ahead_of_waiting hw hd hpunctual
          have hnot := not_connected_of_append (h ▸ hc) (h ▸ he)
            (hahead ▸ countP_course_connected _ _ _) (hahead ▸ countP_course_ended _ _ _)
          refine .overtaken (k := (deeds t.name b).length) (t := b.now) ?_ hphase (fun s => ?_) ?_
          · rw [hdeeds, ← h, List.take_left]
            rfl
          · rw [hdeeds]
            simpa [stamped] using hnot s
          · rw [hadds.generation]
            omega
      | @dials span n hw hn hdelay =>
          have hahead := ahead_of_waiting hw hd hpunctual
          refine .onCourse ?_ (by simp [hphase]) ?_
          · rw [← h, hahead, course_eq, hdeeds, over_of_some hdelay]
            simp [ahead, hphase, hscript, hadds.pause, stamped]
          · rw [hdeeds, hadds.now]
            intro d hm
            rcases List.mem_append.mp hm with hm | hm
            · exact ht d hm
            · exact Nat.le_of_eq (mem_stamped hm)
      | @prompt es' p n hw hn hdelay hj =>
          have hahead := ahead_of_waiting hw hd hpunctual
          rw [← hnewest, ← hphase, ← hadds.generation, ← hadds.pause, ← hadds.now] at hj
          refine .ofJudged
            (deeds t.name b ++ stamped b.now [.reset, .connect (t.script.headD .plain).label])
            hj ?_ hc he ?_ ?_ hg'
          · rw [← h, hahead, course_eq, over_of_none hdelay, hadds.pause, hadds.now, hscript]
            simp [stamped]
          · rw [hdeeds, hadds.now]
            simp [stamped]
          · rw [hadds.now]
            intro d hm
            rcases List.mem_append.mp hm with hm | hm
            · exact ht d hm
            · exact Nat.le_of_eq (mem_stamped hm)
      | @arrives due result es p n hp hj =>
          have hle : due ≤ b.now := by simpa [Supervisor.isDue, hp] using hd
          have hge : b.now ≤ due := hpunctual due (by simp [Supervisor.wake?, hp])
          rw [← hnewest, ← hphase, ← hadds.generation, ← hadds.pause, ← hadds.now] at hj
          refine .ofJudged (deeds t.name b) hj ?_ hc he ?_ ?_ hg'
          · rw [← h, hadds.pause, hadds.now, hscript]
            simp [ahead, hp, Nat.le_antisymm hle hge]
          · rw [hdeeds, hadds.now]
          · rw [hadds.now]
            exact ht

end Following

end Bench
end QuoteBridge
