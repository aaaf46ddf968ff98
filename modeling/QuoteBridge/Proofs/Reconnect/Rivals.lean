import Mathlib.Algebra.GroupWithZero.Nat
import Mathlib.Data.List.Nodup
import QuoteBridge.Proofs.Reconnect.Course

/-!
# Rival supervisors

Supervisors that share one generation number.  Each has a name and a generation of its own, and only
the newest of them may go on.

**Idea.**  A turn concerns one supervisor only.  The others keep their deeds, so that each of them
can be followed by itself through any run: on its course, or overtaken there.

**Results.**
* `Bench.ordered_of_run`: names and generations stay apart, and timers stay ahead.
* `Bench.follows_of_run`: a supervisor is at some point of its course, or was overtaken there.
* `Bench.deeds_of_stale`: an overtaken supervisor does nothing but end.
* `Bench.exists_settled_at`: every later instant is reached.
* `Bench.course_of_run`: what a supervisor does, whatever its rivals do.
-/

namespace QuoteBridge
namespace Bench

section Steps

variable {b b' : Bench} {ts done : List Trial}

theorem stepFrom_eq_none (h : stepFrom done b ts = none) :
    ∀ t ∈ ts, t.supervisor.isDue b.now = false := by
  induction ts generalizing done with
  | nil => simp
  | cons u us ih =>
      by_cases hd : u.supervisor.isDue b.now = true
      · simp [stepFrom, hd] at h
      · simp only [stepFrom, hd] at h
        intro t ht
        rcases List.mem_cons.mp ht with rfl | ht
        · simpa using hd
        · exact ih h t ht

theorem stepFrom_eq_some (h : stepFrom done b ts = some b') :
    ∃ pre t post, ts = pre ++ t :: post ∧ t.supervisor.isDue b.now = true ∧
      b' = { (turn t b).2 with trials := done ++ pre ++ (turn t b).1 :: post } := by
  induction ts generalizing done with
  | nil => cases h
  | cons u us ih =>
      by_cases hd : u.supervisor.isDue b.now = true
      · simp only [stepFrom, hd, if_true, Option.some.injEq] at h
        exact ⟨[], u, us, rfl, hd, by simp [← h]⟩
      · simp only [stepFrom, hd] at h
        obtain ⟨pre, t, post, rfl, ht, hb⟩ := ih h
        exact ⟨u :: pre, t, post, rfl, ht, by simpa using hb⟩

/-- Nobody is due where nothing is left to do. -/
theorem isDue_of_settled (h : timeline.step? b = none) :
    ∀ t ∈ b.trials, t.supervisor.isDue b.now = false :=
  stepFrom_eq_none h

/-- The bench's own order is one of many. -/
theorem run_of_step (h : timeline.step? b = some b') : Run b b' := by
  obtain ⟨pre, t, post, hb, hd, rfl⟩ := stepFrom_eq_some h
  exact .turned (.refl b) hb hd

theorem run_work (fuel : Nat) (b : Bench) : Run b (timeline.work fuel b) := by
  induction fuel generalizing b with
  | zero => exact .refl b
  | succ fuel ih =>
      unfold Timeline.work
      split
      · exact .refl b
      · rename_i b' h
        exact (run_of_step h).trans (ih b')

end Steps

section Ordering

/-- Names and generations stay apart, timers stay ahead, and every entry of the log is by a
supervisor of the bench. -/
structure Ordered (b : Bench) : Prop where
  names : (b.trials.map (·.name)).Nodup
  generations : (b.trials.map (·.supervisor.generation)).Nodup
  newest : ∀ t ∈ b.trials, t.supervisor.generation ≤ b.newest
  scripts : ∀ t ∈ b.trials, t.resetScript = []
  punctual : ∀ t ∈ b.trials, ∀ wake ∈ t.supervisor.wake?, b.now ≤ wake
  known : ∀ e ∈ b.log.toList, ∃ t ∈ b.trials, t.name = e.who

theorem ordered_initial : Ordered initial :=
  ⟨by simp [initial], by simp [initial], by simp [initial], by simp [initial], by simp [initial],
    by simp [initial]⟩

theorem Judged.le_wake {g rested m n now : Nat} {flag : Bool} {result : BusResult}
    {es : List TrialEvent} {v : Supervisor} (h : Judged g rested m flag result es v.phase n)
    (hle : now ≤ rested) : ∀ wake ∈ v.wake?, now ≤ wake := by
  intro wake hw
  generalize hp : v.phase = p at h
  cases h with
  | connected hn hr => simp [Supervisor.wake?, hp] at hw
  | rests hn hr =>
      obtain rfl : rested = wake := by simpa [Supervisor.wake?, hp] using hw
      exact hle
  | overtaken hn => simp [Supervisor.wake?, hp] at hw

theorem le_due (now span : Nat) : now ≤ Timer.due now span := Nat.le_add_right _ _

/-- After its turn a supervisor waits for no instant of the past. -/
theorem Turned.le_wake {t : Trial} {b : Bench} {es : List TrialEvent} {v : Supervisor}
    {script : List Attempt} {n : Nat} (h : Turned t b es v.phase script n) :
    ∀ wake ∈ v.wake?, b.now ≤ wake := by
  generalize hp : v.phase = p at h
  cases h with
  | stale hw hn => simp [Supervisor.wake?, hp]
  | @dials span n hw hn hd =>
      intro wake hwake
      obtain rfl : Timer.due b.now span = wake := by simpa [Supervisor.wake?, hp] using hwake
      exact le_due b.now span
  | prompt hw hn hd hj => exact (hp ▸ hj).le_wake (le_due _ _)
  | arrives hq hj => exact (hp ▸ hj).le_wake (le_due _ _)

variable {b₀ b b' : Bench} {t : Trial}

theorem Ordered.turned {pre post : List Trial} (h : Ordered b) (hb : b.trials = pre ++ t :: post)
    (hd : t.supervisor.isDue b.now = true) :
    Ordered { (turn t b).2 with trials := pre ++ (turn t b).1 :: post } := by
  have hmem : t ∈ b.trials := by simp [hb]
  have hothers : ∀ u ∈ pre ++ post, u ∈ b.trials := by
    intro u hu
    rw [hb]
    rcases List.mem_append.mp hu with hu | hu
    · exact List.mem_append_left _ hu
    · exact List.mem_append_right _ (List.mem_cons_of_mem _ hu)
  obtain ⟨es, hturned, hadds⟩ := turn_effect (h.scripts t hmem) hd
  generalize turn t b = r at hturned hadds ⊢
  have hall : ∀ {P : Trial → Prop}, P r.1 → (∀ u ∈ b.trials, P u) →
      ∀ u ∈ pre ++ r.1 :: post, P u := by
    intro P hself hrest u hu
    rcases List.mem_append.mp hu with hu | hu
    · exact hrest u (hothers u (List.mem_append_left _ hu))
    · rcases List.mem_cons.mp hu with rfl | hu
      · exact hself
      · exact hrest u (hothers u (List.mem_append_right _ hu))
  constructor
  · have hnames := h.names
    rw [hb] at hnames
    simpa [hadds.name] using hnames
  · have hgens := h.generations
    rw [hb] at hgens
    simpa [hadds.generation] using hgens
  · refine hall ?_ (fun u hu => Nat.le_trans (h.newest u hu) hadds.newest)
    rw [hadds.generation]
    exact Nat.le_trans (h.newest t hmem) hadds.newest
  · exact hall (hadds.resetScript.trans (h.scripts t hmem)) h.scripts
  · show ∀ u ∈ pre ++ r.1 :: post, ∀ wake ∈ u.supervisor.wake?, r.2.now ≤ wake
    rw [hadds.now]
    exact hall hturned.le_wake h.punctual
  · intro e he
    have hlog : e ∈ b.log.toList ++ es.map (fun e => ⟨b.now, t.name, e⟩) := hadds.log ▸ he
    rcases List.mem_append.mp hlog with he | he
    · obtain ⟨u, hu, hname⟩ := h.known e he
      rw [hb] at hu
      rcases List.mem_append.mp hu with hu | hu
      · exact ⟨u, List.mem_append_left _ hu, hname⟩
      · rcases List.mem_cons.mp hu with rfl | hu
        · exact ⟨r.1, by simp, hadds.name.trans hname⟩
        · exact ⟨u, List.mem_append_right _ (List.mem_cons_of_mem _ hu), hname⟩
    · obtain ⟨e, -, rfl⟩ := List.mem_map.mp he
      exact ⟨r.1, by simp, hadds.name⟩

theorem Ordered.spawned (h : Ordered b) {name : String} (side : Role) (pause : Nat)
    (script : List Attempt) (flag : Bool) (hn : ∀ u ∈ b.trials, u.name ≠ name) :
    Ordered (b.spawn name side pause script [] flag) := by
  have hall : ∀ {P : Trial → Prop}, (∀ u ∈ b.trials, P u) →
      P ⟨name, side, .create (b.newest + 1) pause, script, [], flag, false⟩ →
      ∀ u ∈ (b.spawn name side pause script [] flag).trials, P u := by
    intro P hrest hself u hu
    rcases List.mem_append.mp hu with hu | hu
    · exact hrest u hu
    · obtain rfl := List.mem_singleton.mp hu
      exact hself
  constructor
  · have hfresh : ∀ u ∈ b.trials, ¬ u.name = name := hn
    simpa [spawn, keep, List.nodup_append, h.names] using hfresh
  · have hfresh : ∀ u ∈ b.trials, ¬ u.supervisor.generation = b.newest + 1 := by
      intro u hu hg
      have := h.newest u hu
      omega
    simpa [spawn, keep, List.nodup_append, h.generations, Supervisor.create] using hfresh
  · exact hall (fun u hu => Nat.le_succ_of_le (h.newest u hu)) (Nat.le_refl _)
  · exact hall h.scripts rfl
  · exact hall h.punctual (by simp [Supervisor.create, Supervisor.wake?])
  · intro e he
    obtain ⟨u, hu, hname⟩ := h.known e he
    exact ⟨u, List.mem_append_left _ hu, hname⟩

theorem ordered_of_run (h : Ordered b₀) (hr : Run b₀ b) : Ordered b := by
  induction hr with
  | refl b => exact h
  | invalidated hr ih =>
      exact { ih h with newest := fun u hu => Nat.le_succ_of_le ((ih h).newest u hu) }
  | kept name hr ih =>
      exact { ih h with newest := fun u hu => Nat.le_succ_of_le ((ih h).newest u hu) }
  | spawned name side pause script flag hr hn ih => exact (ih h).spawned side pause script flag hn
  | turned hr hb hd ih => exact (ih h).turned hb hd
  | waited s hr hs ht hw ih => exact { ih h with punctual := hw }

end Ordering

section Following

variable {b₀ b b' : Bench} {t u : Trial} {pre post : List Trial} {name : String}
  {c : List (Nat × TrialEvent)}

/-- On an ordered bench a name tells whose turn it is. -/
theorem Ordered.name_ne (h : Ordered b) (hb : b.trials = pre ++ t :: post) (hu : u ∈ pre ++ post) :
    u.name ≠ t.name := by
  have hnames := h.names
  rw [hb, List.map_append, List.map_cons, List.perm_middle.nodup_iff, List.nodup_cons] at hnames
  intro he
  rw [← List.map_append] at hnames
  exact hnames.1 (he ▸ List.mem_map_of_mem hu)

theorem mem_split (hb : b.trials = pre ++ t :: post) (hu : u ∈ b.trials) :
    u = t ∨ u ∈ pre ++ post := by
  rw [hb] at hu
  simp only [List.mem_append, List.mem_cons] at hu ⊢
  rcases hu with hu | rfl | hu
  · exact .inr (.inl hu)
  · exact .inl rfl
  · exact .inr (.inr hu)

theorem mem_of_others (hu : u ∈ pre ++ post) : u ∈ pre ++ t :: post := by
  simp only [List.mem_append, List.mem_cons] at hu ⊢
  exact hu.imp_right .inr

/-- The supervisor of some name and generation is on its course or was overtaken there. -/
def Follows (name : String) (g : Nat) (c : List (Nat × TrialEvent)) (b : Bench) : Prop :=
  ∃ u ∈ b.trials, u.name = name ∧ u.supervisor.generation = g ∧ Stands c u b

theorem Follows.turned {g : Nat} (h : Follows name g c b) (ho : Ordered b)
    (hc : c.countP (fun d => d.2 = .connected) = 1)
    (he : c.countP (fun d => d.2 = .ended .connected) = 1)
    (hb : b.trials = pre ++ t :: post) (hd : t.supervisor.isDue b.now = true) :
    Follows name g c { (turn t b).2 with trials := pre ++ (turn t b).1 :: post } := by
  have hmem : t ∈ b.trials := by simp [hb]
  obtain ⟨es, hturned, hadds⟩ := turn_effect (ho.scripts t hmem) hd
  obtain ⟨u, hu, hname, hg, hs⟩ := h
  rcases mem_split hb hu with rfl | hother
  · have hs' := hs.turn hc he (ho.scripts u hmem) hd (ho.punctual u hmem) (ho.newest u hmem)
    exact ⟨(Bench.turn u b).1, by simp, hadds.name.trans hname, hadds.generation.trans hg,
      hs'.same rfl rfl (Nat.le_refl _)⟩
  · exact ⟨u, mem_of_others hother, hname, hg,
      hs.same (deeds_adds_of_ne hadds (ho.name_ne hb hother)) hadds.now hadds.newest⟩

/-- Time that passes when nobody is due changes nothing for a supervisor. -/
theorem Stands.waited (h : Stands c u b) {s : Nat} (hdue : u.supervisor.isDue b.now = false)
    (hs : b.now ≤ s) : Stands c u { b with now := s } := by
  cases h with
  | onCourse h hp ht =>
      refine .onCourse ?_ hp (fun d hd => Nat.le_trans (ht d hd) hs)
      have hahead : ahead s u = ahead b.now u := by
        unfold ahead
        split
        · rename_i hready
          simp [Supervisor.isDue, hready] at hdue
        · rfl
        · rfl
        · rfl
      show deeds u.name b ++ ahead s u = c
      rw [hahead]
      exact h
  | overtaken h hp hc hg => exact .overtaken h hp hc hg

/-- Whatever happens on the bench, a supervisor is at some point of its course, or was overtaken
there. -/
theorem follows_of_run {g : Nat} (h : Follows name g c b₀) (ho : Ordered b₀)
    (hc : c.countP (fun d => d.2 = .connected) = 1)
    (he : c.countP (fun d => d.2 = .ended .connected) = 1) (hr : Run b₀ b) :
    Follows name g c b := by
  induction hr with
  | refl b => exact h
  | invalidated hr ih =>
      obtain ⟨u, hu, hname, hg, hs⟩ := ih h ho
      exact ⟨u, hu, hname, hg, hs.same rfl rfl (Nat.le_succ _)⟩
  | kept name hr ih =>
      obtain ⟨u, hu, hname, hg, hs⟩ := ih h ho
      exact ⟨u, hu, hname, hg, hs.same rfl rfl (Nat.le_succ _)⟩
  | spawned name side pause script flag hr hn ih =>
      obtain ⟨u, hu, hname, hg, hs⟩ := ih h ho
      exact ⟨u, List.mem_append_left _ hu, hname, hg, hs.same rfl rfl (Nat.le_succ _)⟩
  | turned hr hb hd ih => exact (ih h ho).turned (ordered_of_run ho hr) hc he hb hd
  | waited s hr hset hs hw ih =>
      obtain ⟨u, hu, hname, hg, hstands⟩ := ih h ho
      exact ⟨u, hu, hname, hg, hstands.waited (isDue_of_settled hset u hu) hs⟩

/-- A new supervisor is at the beginning of its course. -/
theorem follows_spawn (ho : Ordered b) (side : Role) (pause : Nat) (script : List Attempt)
    (flag : Bool) (hn : ∀ u ∈ b.trials, u.name ≠ name) :
    Follows name (b.newest + 1) (course (fun s => Timer.due s pause) b.now script)
      (b.spawn name side pause script [] flag) := by
  have hnone : deeds name b = [] := by
    have hfilter : b.log.toList.filter (fun e => e.who = name) = [] := by
      rw [List.filter_eq_nil_iff]
      intro e he
      obtain ⟨u, hu, hname⟩ := ho.known e he
      simpa [← hname] using hn u hu
    simp [deeds, hfilter]
  have hdeeds : deeds name (b.spawn name side pause script [] flag) = [] := hnone
  refine ⟨⟨name, side, .create (b.newest + 1) pause, script, [], flag, false⟩,
    List.mem_append_right _ (List.mem_singleton.mpr rfl), rfl, rfl, .onCourse ?_ ?_ ?_⟩
  · rw [hdeeds]
    rfl
  · simp [Supervisor.create]
  · rw [hdeeds]
    simp

/-- An overtaken supervisor that takes a turn ends. -/
theorem Turned.of_stale {es : List TrialEvent} {p : Phase} {script : List Attempt} {n : Nat}
    (h : Turned t b es p script n) (hn : t.supervisor.generation < b.newest) :
    es = [.ended .superseded] ∧ p = .finished .superseded := by
  have hjudged : ∀ {rested : Nat} {result : BusResult} {es p n},
      Judged t.supervisor.generation rested b.newest t.newOnConnected result es p n →
      es = [.ended .superseded] ∧ p = .finished .superseded := by
    intro rested result es p n hj
    cases hj with
    | connected hle hr => omega
    | rests hle hr => omega
    | overtaken hne => exact ⟨rfl, rfl⟩
  cases h with
  | stale hw hne => exact ⟨rfl, rfl⟩
  | dials hw he hd => omega
  | prompt hw he hd hj => omega
  | arrives hp hj => exact hjudged hj

/-- Once a newer generation exists a supervisor does nothing but end. -/
theorem deeds_of_stale (ho : Ordered b₀) (ht : t ∈ b₀.trials)
    (hn : t.supervisor.generation ≠ b₀.newest) (hr : Run b₀ b) :
    deeds t.name b = deeds t.name b₀ ∨
      ∃ s, deeds t.name b = deeds t.name b₀ ++ [(s, .ended .superseded)] := by
  have hrun : ∃ u ∈ b.trials, u.name = t.name ∧ u.supervisor.generation < b.newest ∧
      (deeds t.name b = deeds t.name b₀ ∨
        (∃ s, deeds t.name b = deeds t.name b₀ ++ [(s, .ended .superseded)]) ∧
          u.supervisor.phase = .finished .superseded) := by
    induction hr with
    | refl b =>
        exact ⟨t, ht, rfl, Nat.lt_of_le_of_ne (ho.newest t ht) hn, .inl rfl⟩
    | invalidated hr ih =>
        obtain ⟨u, hu, hname, hg, hd⟩ := ih ho ht hn
        exact ⟨u, hu, hname, Nat.lt_succ_of_lt hg, hd⟩
    | kept name hr ih =>
        obtain ⟨u, hu, hname, hg, hd⟩ := ih ho ht hn
        exact ⟨u, hu, hname, Nat.lt_succ_of_lt hg, hd⟩
    | spawned name side pause script flag hr hfresh ih =>
        obtain ⟨u, hu, hname, hg, hd⟩ := ih ho ht hn
        exact ⟨u, List.mem_append_left _ hu, hname, Nat.lt_succ_of_lt hg, hd⟩
    | @turned b₀ b pre post v hr hb hdue ih =>
        obtain ⟨u, hu, hname, hg, hd⟩ := ih ho ht hn
        have hord := ordered_of_run ho hr
        have hv : v ∈ b.trials := by simp [hb]
        obtain ⟨es, hturned, hadds⟩ := turn_effect (hord.scripts v hv) hdue
        rcases mem_split hb hu with rfl | hother
        · obtain ⟨hes, hphase⟩ := hturned.of_stale hg
          have hsame : deeds t.name b = deeds t.name b₀ := by
            rcases hd with hd | ⟨-, hp⟩
            · exact hd
            · simp [Supervisor.isDue, hp] at hdue
          refine ⟨(turn u b).1, by simp, hadds.name.trans hname, ?_, .inr ⟨⟨b.now, ?_⟩, hphase⟩⟩
          · rw [hadds.generation]
            exact Nat.lt_of_lt_of_le hg hadds.newest
          · show deeds t.name (turn u b).2 = _
            rw [← hname, deeds_adds_self hadds, hes, hname, hsame]
            rfl
        · have hsame : deeds t.name (turn v b).2 = deeds t.name b :=
            deeds_adds_of_ne hadds (hname ▸ hord.name_ne hb hother)
          refine ⟨u, mem_of_others hother, hname, Nat.lt_of_lt_of_le hg hadds.newest, ?_⟩
          show deeds t.name (turn v b).2 = _ ∨ (∃ s, deeds t.name (turn v b).2 = _) ∧ _
          rw [hsame]
          exact hd
    | waited s hr hset hs hw ih => exact ih ho ht hn
  obtain ⟨u, -, -, -, hd⟩ := hrun
  exact hd.imp_right And.left

end Following

section Progress

variable {b b' : Bench} {t : Trial}

/-- A bound on the turns that are left to a supervisor in some phase. -/
def turnsLeft (p : Phase) (script : List Attempt) : Nat :=
  match p with
  | .ready => 2 * script.length + 2
  | .resting _ => 2 * script.length + 2
  | .dialing _ _ => 2 * script.length + 3
  | .finished _ => 0

/-- A bound on the turns that are left on a bench. -/
def workLeft (b : Bench) : Nat :=
  (b.trials.map (fun t => turnsLeft t.supervisor.phase t.script)).sum

theorem Judged.turnsLeft_le {g rested m n : Nat} {flag : Bool} {result : BusResult}
    {es : List TrialEvent} {p : Phase} (h : Judged g rested m flag result es p n)
    (script : List Attempt) : turnsLeft p script ≤ 2 * script.length + 2 := by
  cases h with
  | connected hn hr => exact Nat.zero_le _
  | rests hn hr => exact Nat.le_refl _
  | overtaken hn => exact Nat.zero_le _

theorem turnsLeft_of_waiting (hw : t.supervisor.IsWaiting) :
    turnsLeft t.supervisor.phase t.script = 2 * t.script.length + 2 := by
  rcases hw with hp | ⟨due, hp⟩ <;> rw [hp] <;> rfl

theorem Turned.turnsLeft_lt {es : List TrialEvent} {p : Phase} {script : List Attempt} {n : Nat}
    (h : Turned t b es p script n) :
    turnsLeft p script < turnsLeft t.supervisor.phase t.script := by
  cases h with
  | stale hw hn =>
      rw [turnsLeft_of_waiting hw]
      exact Nat.succ_pos _
  | dials hw hn hd =>
      rw [turnsLeft_of_waiting hw]
      cases hs : t.script with
      | nil => simp [hs, Attempt.plain] at hd
      | cons a as =>
          simp only [List.tail_cons, List.length_cons, turnsLeft]
          omega
  | prompt hw hn hd hj =>
      rw [turnsLeft_of_waiting hw]
      cases hs : t.script with
      | nil =>
          rw [hs] at hj
          cases hj with
          | connected hle hr => exact Nat.succ_pos _
          | rests hle hr => cases hr
          | overtaken hne => exact Nat.succ_pos _
      | cons a as =>
          have hle := hj.turnsLeft_le as
          simp only [List.tail_cons, List.length_cons]
          omega
  | arrives hp hj =>
      have hle := hj.turnsLeft_le t.script
      rw [hp]
      simp only [turnsLeft] at hle ⊢
      omega

theorem workLeft_of_step (ho : Ordered b) (h : timeline.step? b = some b') :
    workLeft b' < workLeft b ∧ b'.now = b.now := by
  obtain ⟨pre, t, post, hb, hd, rfl⟩ := stepFrom_eq_some h
  obtain ⟨es, hturned, hadds⟩ := turn_effect (ho.scripts t (by simp [hb])) hd
  refine ⟨?_, hadds.now⟩
  have hlt := hturned.turnsLeft_lt
  simp only [workLeft, hb, List.nil_append, List.map_append, List.map_cons, List.sum_append,
    List.sum_cons]
  omega

/-- The work of an instant comes to an end. -/
theorem exists_settled (ho : Ordered b) :
    ∃ b', Run b b' ∧ timeline.step? b' = none ∧ b'.now = b.now ∧ workLeft b' ≤ workLeft b := by
  induction hn : workLeft b using Nat.strongRecOn generalizing b with
  | ind n ih =>
      cases h : timeline.step? b with
      | none => exact ⟨b, .refl b, h, rfl, Nat.le_of_eq hn⟩
      | some b₁ =>
          obtain ⟨hlt, hnow⟩ := workLeft_of_step ho h
          have hr := run_of_step h
          obtain ⟨b₂, hr', hs, hnow', hle⟩ := ih (workLeft b₁) (hn ▸ hlt) (ordered_of_run ho hr) rfl
          exact ⟨b₂, hr.trans hr', hs, hnow'.trans hnow, by omega⟩

theorem lt_wake_of_not_due {v : Supervisor} {now wake : Nat} (h : v.isDue now = false)
    (hw : wake ∈ v.wake?) : now < wake := by
  cases hp : v.phase with
  | ready => simp [Supervisor.wake?, hp] at hw
  | finished o => simp [Supervisor.wake?, hp] at hw
  | dialing due result =>
      obtain rfl : due = wake := by simpa [Supervisor.wake?, hp] using hw
      simpa [Supervisor.isDue, hp] using h
  | resting due =>
      obtain rfl : due = wake := by simpa [Supervisor.wake?, hp] using hw
      simpa [Supervisor.isDue, hp] using h

/-- Every later instant is reached, with nothing left to do there. -/
theorem exists_settled_at (ho : Ordered b) {s : Nat} (hs : b.now ≤ s) :
    ∃ b', Run b b' ∧ b'.now = s ∧ timeline.step? b' = none := by
  induction hs with
  | refl =>
      obtain ⟨b₁, hr, hset, hnow, -⟩ := exists_settled ho
      exact ⟨b₁, hr, hnow, hset⟩
  | @step s hs ih =>
      obtain ⟨b₁, hr, rfl, hset⟩ := ih
      have hwait : Run b { b₁ with now := b₁.now + 1 } :=
        .waited _ hr hset (Nat.le_succ _) fun u hu wake hw =>
          lt_wake_of_not_due (isDue_of_settled hset u hu) hw
      obtain ⟨b₂, hr', hset', hnow, -⟩ := exists_settled (ordered_of_run ho hwait)
      exact ⟨b₂, hwait.trans hr', hnow, hset'⟩

end Progress

section Results

variable {b b' : Bench} {t t' : Trial} {c : List (Nat × TrialEvent)} {name : String}

/-- Whether a supervisor can still reset, connect or report success. -/
def MayAct (t : Trial) (b : Bench) : Prop :=
  ∃ b' ds, ∃ d ∈ ds, Run b b' ∧ deeds t.name b' = deeds t.name b ++ ds ∧ d.2 ≠ .ended .superseded

/-- Only the newest supervisor can still act. -/
theorem newest_of_mayAct (ho : Ordered b) (ht : t ∈ b.trials) (h : MayAct t b) :
    t.supervisor.generation = b.newest := by
  obtain ⟨b', ds, d, hd, hr, hds, hne⟩ := h
  by_cases hn : t.supervisor.generation = b.newest
  · exact hn
  · rcases deeds_of_stale ho ht hn hr with hs | ⟨s, hs⟩
    · rw [hds] at hs
      have hnil : ds = [] := by simpa using hs
      simp [hnil] at hd
    · rw [hds] at hs
      have hone : ds = [(s, .ended .superseded)] := List.append_cancel_left hs
      rw [hone] at hd
      obtain rfl := List.mem_singleton.mp hd
      exact absurd rfl hne

theorem eq_of_mayAct (ho : Ordered b) (ht : t ∈ b.trials) (ht' : t' ∈ b.trials)
    (h : MayAct t b) (h' : MayAct t' b) : t = t' := by
  have hg : t.supervisor.generation = t'.supervisor.generation :=
    (newest_of_mayAct ho ht h).trans (newest_of_mayAct ho ht' h').symm
  exact List.inj_on_of_nodup_map ho.generations ht ht' hg

/-- Every attempt follows a reset of its own. -/
def Paired (ds : List (Nat × TrialEvent)) : Prop :=
  ∀ i s l, ds[i]? = some (s, .connect l) → ∃ j, i = j + 1 ∧ ds[j]? = some (s, .reset)

theorem Paired.cons_cons {s : Nat} {l : String} {ds : List (Nat × TrialEvent)} (h : Paired ds) :
    Paired ((s, .reset) :: (s, .connect l) :: ds) := by
  intro i s' l' hi
  match i with
  | 0 => simp at hi
  | 1 =>
      obtain ⟨rfl, -⟩ : s = s' ∧ l = l' := by simpa using hi
      exact ⟨0, rfl, rfl⟩
  | i + 2 =>
      obtain ⟨j, rfl, hj⟩ := h i s' l' (by simpa using hi)
      exact ⟨j + 2, rfl, by simpa using hj⟩

/-- Without an attempt there is nothing to pair. -/
theorem Paired.of_not_connect {ds : List (Nat × TrialEvent)} (h : ∀ s l, (s, .connect l) ∉ ds) :
    Paired ds :=
  fun _ s l hi => absurd (List.mem_of_getElem? hi) (h s l)

theorem Paired.append {ds es : List (Nat × TrialEvent)} (h : Paired ds)
    (hes : ∀ s l, (s, .connect l) ∉ es) : Paired (ds ++ es) := by
  intro i s l hi
  by_cases hlt : i < ds.length
  · rw [List.getElem?_append_left hlt] at hi
    obtain ⟨j, rfl, hj⟩ := h i s l hi
    exact ⟨j, rfl, by rw [List.getElem?_append_left (by omega)]; exact hj⟩
  · rw [List.getElem?_append_right (by omega)] at hi
    exact absurd (List.mem_of_getElem? hi) (hes s l)

theorem Paired.take {ds : List (Nat × TrialEvent)} (h : Paired ds) (k : Nat) :
    Paired (ds.take k) := by
  intro i s l hi
  by_cases hlt : i < k
  · rw [List.getElem?_take_of_lt hlt] at hi
    obtain ⟨j, rfl, hj⟩ := h i s l hi
    exact ⟨j, rfl, by rw [List.getElem?_take_of_lt (by omega)]; exact hj⟩
  · rw [List.getElem?_take_eq_none (by omega)] at hi
    cases hi

theorem paired_course (rest : Nat → Nat) (s : Nat) (script : List Attempt) :
    Paired (course rest s script) := by
  induction script generalizing s with
  | nil => exact (Paired.of_not_connect (by simp)).cons_cons
  | cons a as ih =>
      unfold course
      cases a.dial.result with
      | ok u => exact (Paired.of_not_connect (by simp)).cons_cons
      | error f => exact (ih _).cons_cons

/-- A supervisor's deeds are a part of its course, after which it may have been overtaken. -/
theorem Stands.prefixed (h : Stands c t b) :
    ∃ k, deeds t.name b = c.take k ∨
      ∃ s, deeds t.name b = c.take k ++ [(s, .ended .superseded)] := by
  cases h with
  | onCourse h hp ht => exact ⟨(deeds t.name b).length, .inl (by rw [← h, List.take_left])⟩
  | @overtaken k s h hp hc hn => exact ⟨k, .inr ⟨s, h⟩⟩

theorem countP_ahead (s : Nat) (h : t.supervisor.isFinished = false) :
    (ahead s t).countP (fun d => d.2 = .connected) = 1 ∧
      (ahead s t).countP (fun d => d.2 = .ended .connected) = 1 := by
  cases hp : t.supervisor.phase with
  | ready => simpa [ahead, hp] using ⟨countP_course_connected _ _ _, countP_course_ended _ _ _⟩
  | resting due =>
      simpa [ahead, hp] using ⟨countP_course_connected _ _ _, countP_course_ended _ _ _⟩
  | dialing due result =>
      simpa [ahead, hp] using ⟨countP_sequel_connected _ _, countP_sequel_ended _ _⟩
  | finished o => simp [Supervisor.isFinished, hp] at h

theorem exists_mem_of_countP {e : TrialEvent} {ds : List (Nat × TrialEvent)}
    (h : ds.countP (fun d => d.2 = e) = 1) : ∃ s, (s, e) ∈ ds := by
  have hpos : 0 < ds.countP (fun d => d.2 = e) := by omega
  obtain ⟨d, hd, hp⟩ := List.countP_pos_iff.mp hpos
  obtain rfl : d.2 = e := by simpa using hp
  exact ⟨d.1, hd⟩

/-- A supervisor has ended as connected if and only if it has reported success. -/
theorem Stands.connected_iff (h : Stands c t b) (hc : c.countP (fun d => d.2 = .connected) = 1)
    (he : c.countP (fun d => d.2 = .ended .connected) = 1) :
    (∃ s, (s, .connected) ∈ deeds t.name b) ↔ ∃ s, (s, .ended .connected) ∈ deeds t.name b := by
  cases h with
  | overtaken h hp hnot hn =>
      exact ⟨fun ⟨s, hs⟩ => absurd hs (hnot s).1, fun ⟨s, hs⟩ => absurd hs (hnot s).2⟩
  | onCourse h hp ht =>
      by_cases hf : t.supervisor.isFinished = true
      · have hall : deeds t.name b = c := by
          cases hphase : t.supervisor.phase with
          | finished o => simpa [ahead, hphase] using h
          | _ => simp [Supervisor.isFinished, hphase] at hf
        rw [hall]
        exact ⟨fun _ => exists_mem_of_countP he, fun _ => exists_mem_of_countP hc⟩
      · obtain ⟨hone, hone'⟩ := countP_ahead b.now (by simpa using hf)
        have hnot := not_connected_of_append (h ▸ hc) (h ▸ he) hone hone'
        exact ⟨fun ⟨s, hs⟩ => absurd hs (hnot s).1, fun ⟨s, hs⟩ => absurd hs (hnot s).2⟩

/-- A supervisor that is not due has nothing to do yet. -/
theorem lt_of_mem_ahead (hd : t.supervisor.isDue b.now = false) {d : Nat × TrialEvent}
    (hm : d ∈ ahead b.now t) : b.now < d.1 := by
  have hrest : ∀ s, s ≤ Timer.due s t.supervisor.pause := fun s => le_due s _
  cases hp : t.supervisor.phase with
  | ready => simp [Supervisor.isDue, hp] at hd
  | finished o => simp [ahead, hp] at hm
  | dialing due result =>
      have hlt : b.now < due := by simpa [Supervisor.isDue, hp] using hd
      simp only [ahead, hp] at hm
      exact Nat.lt_of_lt_of_le hlt (le_of_mem_sequel hrest hm)
  | resting due =>
      have hlt : b.now < due := by simpa [Supervisor.isDue, hp] using hd
      simp only [ahead, hp] at hm
      exact Nat.lt_of_lt_of_le hlt (le_of_mem_course hrest hm)

/-- A supervisor with nothing left to do has done all of its course up to now. -/
theorem Stands.settled (h : Stands c t b) (hd : t.supervisor.isDue b.now = false)
    (hn : ∀ s, (s, .ended .superseded) ∉ deeds t.name b) :
    deeds t.name b = c.filter (fun d => d.1 ≤ b.now) := by
  cases h with
  | @overtaken k s h hp hnot hg => exact absurd (by simp [h]) (hn s)
  | onCourse h hp ht =>
      have hpast : (deeds t.name b).filter (fun d => d.1 ≤ b.now) = deeds t.name b :=
        List.filter_eq_self.mpr (by simpa using ht)
      have hfuture : (ahead b.now t).filter (fun d => d.1 ≤ b.now) = [] := by
        rw [List.filter_eq_nil_iff]
        intro d hm
        have hlt := lt_of_mem_ahead hd hm
        simpa using hlt
      rw [← h, List.filter_append, hpast, hfuture, List.append_nil]

/-- In its own course a supervisor is not superseded. -/
theorem not_superseded_of_course (rest : Nat → Nat) (k : Nat) (script : List Attempt) (s : Nat) :
    (s, .ended .superseded) ∉ course rest k script := by
  have hcount := countP_course (fun e => e = .ended .superseded) (by simp) rest k script
  intro hm
  have hzero := List.countP_eq_zero.mp (hcount.trans (by simp)) _ hm
  simp at hzero

theorem Turned.connected {es : List TrialEvent} {p : Phase} {script : List Attempt} {n : Nat}
    (h : Turned t b es p script n) (hm : .connected ∈ es) :
    b.newest ≤ t.supervisor.generation ∧
      n = t.supervisor.generation + t.newOnConnected.toNat := by
  have hjudged : ∀ {rested : Nat} {result : BusResult} {es p n},
      Judged t.supervisor.generation rested b.newest t.newOnConnected result es p n →
      .connected ∈ es → b.newest ≤ t.supervisor.generation ∧
        n = t.supervisor.generation + t.newOnConnected.toNat := by
    intro rested result es p n hj hm
    cases hj with
    | connected hle hr => exact ⟨hle, rfl⟩
    | rests hle hr => simp at hm
    | overtaken hne => simp at hm
  cases h with
  | stale hw hne => simp at hm
  | dials hw hn hd => simp at hm
  | prompt hw hn hd hj => exact hjudged hj (by simpa using hm)
  | arrives hp hj => exact hjudged hj hm

/-- What a supervisor does, whatever its rivals do and whenever a newer generation is made.  Its
deeds are a part of its course, and then it may have been superseded.  Only the newest supervisor
goes on, and it reports success once.  One that is not superseded does all of its course in time. -/
theorem course_of_run {b₁ : Bench} {side : Role} {pause : Nat} {script : List Attempt}
    {flag : Bool} (hc : c = course (fun s => Timer.due s pause) b₁.now script)
    (h₁ : Run initial b₁) (hn : ∀ u ∈ b₁.trials, u.name ≠ name)
    (h : Run (b₁.spawn name side pause script [] flag) b) :
    ((∃ k, deeds name b = c.take k ∨
        ∃ s, deeds name b = c.take k ++ [(s, .ended .superseded)]) ∧
      Paired (deeds name b) ∧
      ((∃ s, (s, .connected) ∈ deeds name b) ↔ ∃ s, (s, .ended .connected) ∈ deeds name b)) ∧
    ((b.newest ≠ b₁.newest + 1 → ∀ b', Run b b' → deeds name b' = deeds name b ∨
        ∃ s, deeds name b' = deeds name b ++ [(s, .ended .superseded)]) ∧
      (∀ s, (s, .ended .superseded) ∈ deeds name b → b.newest ≠ b₁.newest + 1) ∧
      (deeds name b).countP (fun d => d.2 = .connected) ≤ 1 ∧
      (∀ t ∈ b.trials, t.name = name → t.supervisor.isDue b.now = true → ∀ s,
        (s, .connected) ∈ deeds name (turn t b).2 → (s, .connected) ∉ deeds name b →
          b.newest = b₁.newest + 1 ∧
            (turn t b).2.newest = b₁.newest + 1 + t.newOnConnected.toNat) ∧
      ∀ t ∈ b.trials, ∀ t' ∈ b.trials, MayAct t b → MayAct t' b → t = t') ∧
    ((∀ s, (s, .ended .superseded) ∉ deeds name b) → timeline.step? b = none →
        deeds name b = c.filter (fun d => d.1 ≤ b.now)) ∧
      (∀ s, b.now ≤ s → ∃ b', Run b b' ∧ b'.now = s ∧ timeline.step? b' = none) ∧
      c.countP (fun d => d.2 = .reset) = failures script + 1 ∧
      c.countP (fun d => d.2.isConnect) = failures script + 1 ∧
      c.countP (fun d => d.2 = .connected) = 1 := by
  have hcone : c.countP (fun d => d.2 = .connected) = 1 := hc ▸ countP_course_connected _ _ _
  have heone : c.countP (fun d => d.2 = .ended .connected) = 1 := hc ▸ countP_course_ended _ _ _
  have ho₁ : Ordered b₁ := ordered_of_run ordered_initial h₁
  have ho' := ho₁.spawned side pause script flag hn
  have ho : Ordered b := ordered_of_run ho' h
  have hf : Follows name (b₁.newest + 1) c b :=
    follows_of_run (hc ▸ follows_spawn ho₁ side pause script flag hn) ho' hcone heone h
  obtain ⟨u, hu, rfl, hg, hs⟩ := hf
  have hpart := hs.prefixed
  refine ⟨⟨hpart, ?_, hs.connected_iff hcone heone⟩, ⟨?_, ?_, ?_, ?_, ?_⟩, ?_, ?_, ?_, ?_, hcone⟩
  · have hpaired : Paired c := hc ▸ paired_course _ _ _
    obtain ⟨k, hk | ⟨s, hk⟩⟩ := hpart
    · exact hk ▸ hpaired.take k
    · exact hk ▸ (hpaired.take k).append (by simp)
  · intro hne b' hr
    exact deeds_of_stale ho hu (fun he => hne (he.symm.trans hg)) hr
  · intro s hm
    cases hs with
    | onCourse h hp ht =>
        have hmem : (s, TrialEvent.ended .superseded) ∈ c := h ▸ List.mem_append_left _ hm
        exact absurd hmem (hc ▸ not_superseded_of_course _ _ _ _)
    | overtaken h hp hnot hlt => omega
  · obtain ⟨k, hk | ⟨s, hk⟩⟩ := hpart
    · rw [hk, ← hcone]
      exact List.Sublist.countP_le (List.take_sublist k c)
    · rw [hk, List.countP_append, ← hcone]
      simpa using List.Sublist.countP_le (List.take_sublist k c)
  · intro t ht hname hd s hm hnm
    obtain rfl : t = u := List.inj_on_of_nodup_map ho.names ht hu hname
    obtain ⟨es, hturned, hadds⟩ := turn_effect (ho.scripts t ht) hd
    rw [deeds_adds_self hadds] at hm
    have hes : TrialEvent.connected ∈ es := by
      rcases List.mem_append.mp hm with hm | hm
      · exact absurd hm hnm
      · obtain ⟨e, he, hpair⟩ := List.mem_map.mp hm
        obtain rfl : e = .connected := congrArg Prod.snd hpair
        exact he
    obtain ⟨hle, hnewest⟩ := hturned.connected hes
    have hge := ho.newest t ht
    exact ⟨by omega, by rw [hnewest, hg]⟩
  · intro t ht t' ht' hact hact'
    exact eq_of_mayAct ho ht ht' hact hact'
  · intro hnot hset
    exact hs.settled (isDue_of_settled hset u hu) hnot
  · intro s hle
    exact exists_settled_at ho hle
  · have hcount := countP_course (fun e => e = .reset) (by simp) (fun s => Timer.due s pause)
      b₁.now script
    simpa [hc] using hcount
  · have hcount := countP_course TrialEvent.isConnect (fun _ _ => rfl) (fun s => Timer.due s pause)
      b₁.now script
    simpa [hc, TrialEvent.isConnect] using hcount

/-- An attempt that fails at once. -/
def refused : Attempt := ⟨"\"unreachable\"", ⟨none, .error (.unreachable "refused")⟩, false, false⟩

/-- Two supervisors, the second of which rests once. -/
def duel : Bench :=
  (initial.spawn "old" .adapter 5 [refused] [] false).spawn "new" .adapter 5 [refused] [] false

def duelEnd : Bench := timeline.work 1 { timeline.work 2 duel with now := 5 }

theorem duel_run : Run duel duelEnd :=
  ((run_work 2 duel).trans (.waited 5 (.refl _) rfl (by decide) (by decide))).trans (run_work 1 _)

theorem course_of_run_duel :
    deeds "new" duelEnd = course (fun s => Timer.due s 5) 0 [refused] := by
  have hlog : duelEnd.log.toList = [⟨0, "old", .ended .superseded⟩, ⟨0, "new", .reset⟩,
      ⟨0, "new", .connect refused.label⟩, ⟨5, "new", .reset⟩,
      ⟨5, "new", .connect Attempt.plain.label⟩, ⟨5, "new", .connected⟩,
      ⟨5, "new", .ended .connected⟩] := rfl
  have h₁ : Run initial (initial.spawn "old" .adapter 5 [refused] [] false) :=
    .spawned "old" .adapter 5 [refused] false (.refl initial) (by simp [initial])
  have h := course_of_run rfl h₁ (by simp [initial, spawn, keep, invalidate]) duel_run
  obtain ⟨-, -, hfull, -⟩ := h
  exact hfull (by simp [deeds, hlog]) rfl

/-- A pause that is longer than any timer. -/
def sleeper : Bench := initial.spawn "s" .adapter 1099511627776 [refused] [] false

def sleeperEnd : Bench := timeline.work 1 { timeline.work 1 sleeper with now := Timer.longest }

theorem sleeper_run : Run sleeper sleeperEnd :=
  ((run_work 1 sleeper).trans
    (.waited Timer.longest (.refl _) rfl (by decide) (by decide))).trans (run_work 1 _)

/-- A pause that is longer than any timer ends too early. -/
theorem pause_cut_short :
    ¬ ∀ (pause : Nat) (script : List Attempt) (b : Bench),
      Run (initial.spawn "s" .adapter pause script [] false) b →
        ∃ k, deeds "s" b = (course (fun s => s + pause) 0 script).take k ∨
          ∃ s, deeds "s" b =
            (course (fun s => s + pause) 0 script).take k ++ [(s, .ended .superseded)] := by
  intro h
  obtain ⟨k, hk⟩ := h 1099511627776 [refused] sleeperEnd sleeper_run
  have hlog : sleeperEnd.log.toList = [⟨0, "s", .reset⟩, ⟨0, "s", .connect refused.label⟩,
      ⟨Timer.longest, "s", .reset⟩, ⟨Timer.longest, "s", .connect Attempt.plain.label⟩,
      ⟨Timer.longest, "s", .connected⟩, ⟨Timer.longest, "s", .ended .connected⟩] := rfl
  have hthird : (deeds "s" sleeperEnd)[2]? = some (Timer.longest, .reset) := by
    simp [deeds, hlog]
  have hcourse : course (fun s => s + 1099511627776) 0 [refused] =
      [(0, .reset), (0, .connect refused.label), (1099511627776, .reset),
        (1099511627776, .connect Attempt.plain.label), (1099511627776, .connected),
        (1099511627776, .ended .connected)] := by
    simp [course, refused, Dial.over]
  rw [hcourse] at hk
  rcases hk with hk | ⟨s, hk⟩
  · rw [hk] at hthird
    rcases k with _ | _ | _ | k <;> simp [Timer.longest] at hthird
  · rw [hk] at hthird
    rcases k with _ | _ | _ | k <;> simp [Timer.longest] at hthird

end Results

end Bench
end QuoteBridge
