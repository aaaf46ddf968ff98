import QuoteBridge.Adapter
import QuoteBridge.Generator
import QuoteBridge.Proofs.Bus.Session

/-!
# Turns of supervisors

What a supervisor's turn keeps, and what it does at a prompt bus.

**Prompt buses.**  A supervisor whose attempts to connect are over at once never dials: a round ends
it, or it rests until the next one.

**Results.**
* `Supervisor.turn_induction`: what every operation of a dialer keeps is kept by a turn.
* `Supervisor.turn_of_stale`: a supervisor that was overtaken gives up.
* `Supervisor.beginRound_of_prompt`: a round of the newest supervisor.
* `Supervisor.turnFirst_view`: what a supervisor does in surroundings that hold more than it sees.
* `Supervisor.turnFirst_cases`: of several supervisors one that is due takes a turn.
* `Supervisor.turnFirst_single`: what becomes of a supervisor that is alone.
* `Adapter.superviseFrom_single`, `Generator.superviseFrom_single`: what its round does to a party
  at a broker.
-/

namespace QuoteBridge

/-- Two dialers do the same in surroundings of which one sees the other by `f`. -/
structure Dialer.IsViewed {σ τ : Type} (d : Dialer σ) (d' : Dialer τ) (f : σ → τ) : Prop where
  newest (w : σ) : d'.newest (f w) = d.newest w
  reset (w : σ) : d'.reset (f w) = f (d.reset w)
  dial (w : σ) : d'.dial (f w) = ((d.dial w).1, f (d.dial w).2)
  arrived (w : σ) : d'.arrived (f w) = f (d.arrived w)
  count (ok : Bool) (w : σ) : d'.count ok (f w) = f (d.count ok w)
  connected (w : σ) : d'.connected (f w) = f (d.connected w)

namespace Supervisor

section Kept

variable {σ : Type} (d : Dialer σ) {P : σ → Prop}

theorem judge_induction (hcount : ∀ ok w, P w → P (d.count ok w))
    (hconnected : ∀ w, P w → P (d.connected w)) (now : Nat) (result : BusResult) (v : Supervisor)
    {w : σ} (h : P w) : P (v.judge d now result w).2 := by
  unfold judge
  split
  · split
    · exact hconnected _ (hcount true w h)
    · exact h
  · dsimp only
    split
    · exact hcount false w h
    · exact hcount false w h

theorem beginRound_induction (hreset : ∀ w, P w → P (d.reset w))
    (hdial : ∀ w, P w → P (d.dial w).2) (harrived : ∀ w, P w → P (d.arrived w))
    (hcount : ∀ ok w, P w → P (d.count ok w)) (hconnected : ∀ w, P w → P (d.connected w))
    (now : Nat) (v : Supervisor) {w : σ} (h : P w) : P (v.beginRound d now w).2 := by
  have hw : P (d.dial (d.reset w)).2 := hdial _ (hreset w h)
  unfold beginRound
  split
  · dsimp only
    split
    · exact judge_induction d hcount hconnected now _ v (harrived _ hw)
    · exact hw
  · exact h

/-- What every operation of a dialer keeps is kept by a turn. -/
theorem turn_induction (hreset : ∀ w, P w → P (d.reset w))
    (hdial : ∀ w, P w → P (d.dial w).2) (harrived : ∀ w, P w → P (d.arrived w))
    (hcount : ∀ ok w, P w → P (d.count ok w)) (hconnected : ∀ w, P w → P (d.connected w))
    (now : Nat) (v : Supervisor) {w : σ} (h : P w) : P (v.turn d now w).2 := by
  have hround := beginRound_induction d hreset hdial harrived hcount hconnected now v h
  unfold turn
  split
  · exact hround
  · split
    · exact judge_induction d hcount hconnected now _ v (harrived w h)
    · exact h
  · split
    · exact hround
    · exact h
  · exact h

end Kept

section Results

variable {σ : Type} (d : Dialer σ) (now : Nat) (v : Supervisor) (w : σ)

theorem generation_judge (result : BusResult) :
    (v.judge d now result w).1.generation = v.generation := by
  unfold judge
  split
  · split <;> rfl
  · dsimp only
    split <;> rfl

theorem generation_beginRound : (v.beginRound d now w).1.generation = v.generation := by
  unfold beginRound
  split
  · dsimp only
    split
    · exact generation_judge d now v _ _
    · rfl
  · rfl

theorem generation_turn : (v.turn d now w).1.generation = v.generation := by
  unfold turn
  split
  · exact generation_beginRound d now v w
  · split
    · exact generation_judge d now v _ _
    · rfl
  · split
    · exact generation_beginRound d now v w
    · rfl
  · rfl

theorem isDialing_judge (result : BusResult) :
    (v.judge d now result w).1.isDialing = false := by
  unfold judge
  split
  · split <;> rfl
  · dsimp only
    split <;> rfl

variable {d v}

/-- Where every attempt is over at once a supervisor never dials. -/
theorem isDialing_turn (hd : ∀ w, (d.dial w).1.delay = none) (hv : v.isDialing = false) :
    (v.turn d now w).1.isDialing = false := by
  have hround : (v.beginRound d now w).1.isDialing = false := by
    unfold beginRound
    split
    · simp only [hd]
      exact isDialing_judge d now v _ _
    · rfl
  unfold turn
  split
  · exact hround
  · split
    · exact isDialing_judge d now v _ _
    · exact hv
  · split
    · exact hround
    · exact hv
  · exact hv

/-- A supervisor that was overtaken between two attempts gives up and does nothing else. -/
theorem turn_of_stale (hv : v.isDialing = false) (hdue : v.isDue now = true)
    (hw : d.newest w ≠ v.generation) : v.turn d now w = (v.giveUp, w) := by
  have hround : v.beginRound d now w = (v.giveUp, w) := by
    simp [beginRound, isCurrent, hw]
  cases hp : v.phase with
  | ready => simp [turn, hp, hround]
  | dialing due result => simp [isDialing, hp] at hv
  | resting due =>
      have hle : due ≤ now := by simpa [isDue, hp] using hdue
      simp [turn, hp, hround, hle]
  | finished outcome => simp [isDue, hp] at hdue

end Results

/-- The supervisor has not begun or rests between two rounds. -/
def IsWaiting (v : Supervisor) : Prop := v.phase = .ready ∨ ∃ due, v.phase = .resting due

variable {σ : Type} (d : Dialer σ)

/-- A round of the newest supervisor when the attempt is over at once. -/
theorem beginRound_of_prompt {v : Supervisor} {w : σ} (now : Nat)
    (hdelay : (d.dial (d.reset w)).1.delay = none) (hw : d.newest w = v.generation)
    (harrived : d.newest (d.arrived (d.dial (d.reset w)).2) = v.generation)
    (hcount : d.newest (d.count false (d.arrived (d.dial (d.reset w)).2)) = v.generation) :
    v.beginRound d now w =
      match (d.dial (d.reset w)).1.result with
      | .ok () =>
          ({ v with phase := .finished .connected },
            d.connected (d.count true (d.arrived (d.dial (d.reset w)).2)))
      | .error _ =>
          ({ v with phase := .resting (Timer.due now v.pause) },
            d.count false (d.arrived (d.dial (d.reset w)).2)) := by
  simp only [beginRound, isCurrent, hw, decide_true, if_true, hdelay, judge]
  cases (d.dial (d.reset w)).1.result with
  | ok u => simp [harrived]
  | error e => simp [hcount]

/-- A waiting supervisor that can go on begins a round. -/
theorem turn_of_isDue {v : Supervisor} (hv : v.IsWaiting) {now : Nat} (hd : v.isDue now = true)
    (w : σ) : v.turn d now w = v.beginRound d now w := by
  rcases hv with hv | ⟨due, hv⟩
  · simp [turn, hv]
  · have hle : due ≤ now := by simpa [isDue, hv] using hd
    simp [turn, hv, hle]

section Views

variable {d} {τ : Type} {d' : Dialer τ} {f : σ → τ}

theorem judge_view (h : d.IsViewed d' f) (now : Nat) (result : BusResult) (v : Supervisor)
    (w : σ) : v.judge d' now result (f w) =
      ((v.judge d now result w).1, f (v.judge d now result w).2) := by
  cases result with
  | ok u =>
      by_cases hw : d.newest w = v.generation <;>
        simp [judge, isCurrent, h.newest, h.count, h.connected, hw]
  | error e =>
      by_cases hw : d.newest (d.count false w) = v.generation <;>
        simp [judge, isCurrent, h.newest, h.count, hw]

theorem beginRound_view (h : d.IsViewed d' f) (now : Nat) (v : Supervisor) (w : σ) :
    v.beginRound d' now (f w) = ((v.beginRound d now w).1, f (v.beginRound d now w).2) := by
  by_cases hw : d.newest w = v.generation
  · simp only [beginRound, isCurrent, h.newest, hw, decide_true, if_true, h.reset, h.dial]
    split
    · rw [h.arrived, judge_view h]
    · rfl
  · simp [beginRound, isCurrent, h.newest, hw]

theorem turn_view (h : d.IsViewed d' f) (now : Nat) (v : Supervisor) (w : σ) :
    v.turn d' now (f w) = ((v.turn d now w).1, f (v.turn d now w).2) := by
  unfold turn
  split
  · exact beginRound_view h now v w
  · split
    · rw [h.arrived, judge_view h]
    · rfl
  · split
    · exact beginRound_view h now v w
    · rfl
  · rfl

/-- Of several supervisors the same one goes on, whichever surroundings they see. -/
theorem turnFirst_view (h : d.IsViewed d' f) {staff : List Supervisor → σ → σ}
    {staff' : List Supervisor → τ → τ} (hstaff : ∀ vs w, staff' vs (f w) = f (staff vs w))
    (now : Nat) (w : σ) (done vs : List Supervisor) :
    turnFirst d' staff' now (f w) done vs = (turnFirst d staff now w done vs).map f := by
  induction vs generalizing done with
  | nil => rfl
  | cons v vs ih =>
      simp only [turnFirst]
      split
      · rw [hstaff, turn_view h, hstaff]
        rfl
      · exact ih (done ++ [v])

end Views

section First

variable {staff : List Supervisor → σ → σ} {now : Nat} {w r : σ} {vs done : List Supervisor}

variable {d} in
/-- The supervisor that goes on is one that is due, and the others stay. -/
theorem turnFirst_cases (h : turnFirst d staff now w done vs = some r) :
    ∃ pre v post t, vs = pre ++ v :: post ∧ v.isDue now = true ∧
      t = v.turn d now (staff (done ++ pre ++ post) w) ∧
        r = staff (if t.1.isFinished then done ++ pre ++ post else done ++ pre ++ t.1 :: post)
          t.2 := by
  induction vs generalizing done with
  | nil => cases h
  | cons v vs ih =>
      by_cases hd : v.isDue now = true
      · simp only [turnFirst, hd, if_true, Option.some.injEq] at h
        exact ⟨[], v, vs, _, rfl, hd, rfl, by simp [← h]⟩
      · simp only [turnFirst, hd] at h
        obtain ⟨pre, u, post, t, rfl, hu, ht, hr⟩ := ih h
        exact ⟨v :: pre, u, post, t, rfl, hu, by simpa using ht, by simpa using hr⟩

/-- The only supervisor, if it waits and its attempts are over at once, connects and ends, or rests
until its next round. -/
theorem turnFirst_single {v : Supervisor} (hv : v.IsWaiting) (hvs : [v] = done ++ vs)
    (h : turnFirst d staff now w done vs = some r)
    (hdelay : (d.dial (d.reset (staff [] w))).1.delay = none)
    (hw : d.newest (staff [] w) = v.generation)
    (harrived : d.newest (d.arrived (d.dial (d.reset (staff [] w))).2) = v.generation)
    (hcount : d.newest (d.count false (d.arrived (d.dial (d.reset (staff [] w))).2)) =
      v.generation) :
    ((d.dial (d.reset (staff [] w))).1.result = .ok () ∧
        r = staff []
          (d.connected (d.count true (d.arrived (d.dial (d.reset (staff [] w))).2)))) ∨
      ∃ f, (d.dial (d.reset (staff [] w))).1.result = .error f ∧
        r = staff [{ v with phase := .resting (Timer.due now v.pause) }]
          (d.count false (d.arrived (d.dial (d.reset (staff [] w))).2)) := by
  obtain ⟨pre, u, post, t, rfl, hdue, rfl, rfl⟩ := turnFirst_cases h
  obtain ⟨rfl, rfl, rfl, rfl⟩ : done = [] ∧ pre = [] ∧ u = v ∧ post = [] := by
    simpa [List.append_eq_cons_iff] using hvs.symm
  rw [List.append_nil, List.append_nil, turn_of_isDue d hv hdue,
    beginRound_of_prompt d now hdelay hw harrived hcount]
  cases (d.dial (d.reset (staff [] w))).1.result with
  | ok u => exact Or.inl ⟨rfl, rfl⟩
  | error f => exact Or.inr ⟨f, rfl, rfl⟩

end First

end Supervisor

section Turns

variable {β H : Type} {link : Link β}

/-- A supervisor that goes on takes a turn, with the others in the adapter's list. -/
theorem Adapter.superviseFrom_turn {a : Adapter H} {s : Scene β H} {r : Adapter H × Scene β H}
    {vs done : List Supervisor} (h : superviseFrom link a s done vs = some r) :
    ∃ (v : Supervisor) (others left : List Supervisor) (w : Adapter H × Scene β H),
      w = (v.turn (dialer link) s.now ({ a with supervisors := others }, s)).2 ∧
        r = ({ w.1 with supervisors := left }, w.2) := by
  obtain ⟨pre, v, post, t, -, -, rfl, rfl⟩ := Supervisor.turnFirst_cases h
  exact ⟨v, _, _, _, rfl, rfl⟩

/-- A supervisor that goes on takes a turn, with the others in the generator's list. -/
theorem Generator.superviseFrom_turn {g : Generator} {s : Scene β H}
    {r : Generator × Scene β H} {vs done : List Supervisor}
    (h : superviseFrom link g s done vs = some r) :
    ∃ (v : Supervisor) (others left : List Supervisor) (w : Generator × Scene β H),
      w = (v.turn (dialer link) s.now ({ g with supervisors := others }, s)).2 ∧
        r = ({ w.1 with supervisors := left }, w.2) := by
  obtain ⟨pre, v, post, t, -, -, rfl, rfl⟩ := Supervisor.turnFirst_cases h
  exact ⟨v, _, _, _, rfl, rfl⟩

end Turns

section Parties

variable {κ H : Type} [DecidableEq κ] {k : κ} {l : Nat} {v : Supervisor}

/-- An adapter that is held does not retire its supervisors. -/
theorem Adapter.retireIfGone_of_held {a : Adapter H} (h : a.released = false) :
    a.retireIfGone = a := by
  simp [retireIfGone, isPresent, h]

theorem Adapter.arrived_of_held {β : Type} {link : Link β} {w : Adapter H × Scene β H}
    (h : w.1.released = false) : (dialer link).arrived w = w := by
  show (w.1.retireIfGone, w.2) = w
  rw [retireIfGone_of_held h]

/-- A generator that is held does not stop. -/
theorem Generator.stopIfGone_of_held {g : Generator} (h : g.released = false) :
    g.stopIfGone = g := by
  simp [stopIfGone, isPresent, h]

theorem Generator.arrived_of_held {β : Type} {link : Link β} {w : Generator × Scene β H}
    (h : w.1.released = false) : (dialer link).arrived w = w := by
  show (w.1.stopIfGone, w.2) = w
  rw [stopIfGone_of_held h]

/-- The only supervisor of an adapter connects and ends, or rests without a session. -/
theorem Adapter.superviseFrom_single {a : Adapter H} {s : Scene (Broker κ) H}
    {r : Adapter H × Scene (Broker κ) H} (ha : a.released = false) (hs : a.supervisors = [v])
    (hg : v.generation = a.newest) (hv : v.IsWaiting)
    {vs done : List Supervisor} (hvs : a.supervisors = done ++ vs)
    (h : superviseFrom (Broker.link k l) a s done vs = some r) :
    ∃ m,
      ((s.bus.reset k).connect k).1 = .ok () ∧
          r = ({ a with
                  supervisors := []
                  book := a.book.mapLiveness (.setConnected true) },
                { s with bus := ((s.bus.reset k).connect k).2, metrics := m }) ∨
        ∃ due f, ((s.bus.reset k).connect k).1 = .error f ∧
          r = ({ a with supervisors := [{ v with phase := .resting due }] },
                { s with bus := s.bus.reset k, metrics := m }) := by
  have harrived : Adapter.retireIfGone { a with supervisors := [] } =
      { a with supervisors := [] } := retireIfGone_of_held ha
  have hnewest : Adapter.newest (Adapter.retireIfGone { a with supervisors := [] }) =
      v.generation := by rw [harrived, hg]
  rcases Supervisor.turnFirst_single (dialer (Broker.link k l)) hv (hs.symm.trans hvs) h rfl
      hg.symm hnewest hnewest with ⟨hc, rfl⟩ | ⟨f, hc, rfl⟩
  · refine ⟨s.metrics.bump (.attempts .adapter true), Or.inl ⟨hc, ?_⟩⟩
    simp only [dialer, staff, harrived]
    rfl
  · have hb : ((s.bus.reset k).connect k).2 = s.bus.reset k := Broker.connect_of_error hc
    refine ⟨s.metrics.bump (.attempts .adapter false),
      Or.inr ⟨Timer.due s.now v.pause, f, hc, ?_⟩⟩
    simp only [dialer, staff, harrived, Broker.link, hb]
    rfl

/-- The only supervisor of a generator connects and ends, or rests without a session. -/
theorem Generator.superviseFrom_single {g : Generator} {s : Scene (Broker κ) H}
    {r : Generator × Scene (Broker κ) H} (hr : g.released = false) (hs : g.supervisors = [v])
    (hg : v.generation = g.newest) (hv : v.IsWaiting)
    {vs done : List Supervisor} (hvs : g.supervisors = done ++ vs)
    (h : superviseFrom (Broker.link k l) g s done vs = some r) :
    ∃ m,
      ((s.bus.reset k).connect k).1 = .ok () ∧
          r = ({ g with supervisors := [] },
                { s with bus := ((s.bus.reset k).connect k).2, metrics := m }) ∨
        ∃ due f, ((s.bus.reset k).connect k).1 = .error f ∧
          r = ({ g with supervisors := [{ v with phase := .resting due }] },
                { s with bus := s.bus.reset k, metrics := m }) := by
  have harrived : Generator.stopIfGone { g with supervisors := [] } =
      { g with supervisors := [] } := stopIfGone_of_held hr
  have hnewest : Generator.newest (Generator.stopIfGone { g with supervisors := [] }) =
      v.generation := by rw [harrived, hg]
  rcases Supervisor.turnFirst_single (dialer (Broker.link k l)) hv (hs.symm.trans hvs) h rfl
      hg.symm hnewest hnewest with ⟨hc, rfl⟩ | ⟨f, hc, rfl⟩
  · refine ⟨s.metrics.bump (.attempts .generator true), Or.inl ⟨hc, ?_⟩⟩
    simp only [dialer, staff, harrived]
    rfl
  · have hb : ((s.bus.reset k).connect k).2 = s.bus.reset k := Broker.connect_of_error hc
    refine ⟨s.metrics.bump (.attempts .generator false),
      Or.inr ⟨Timer.due s.now v.pause, f, hc, ?_⟩⟩
    simp only [dialer, staff, harrived, Broker.link, hb]
    rfl

end Parties

end QuoteBridge
