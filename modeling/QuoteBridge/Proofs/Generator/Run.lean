import QuoteBridge.Proofs.Generator.Effects

/-!
# Runs of a generator

A run is a list of acts, performed one after the other at a bus that notes on a tape what is sent
over it and whether it took that.  Beside the payloads the tape has the beginnings and ends of the
subscriptions, at the places where they come.

**Acts.**  Every call, request, event, loss and turn is one act, and any supervisor that is due may
go first.  The bus may be another one before each act, so that a send has any outcome.

**Results.**
* `Generator.exists_perform_of_step?`: what a generator does by itself is an act.
* `Generator.Trail.perform`: an act goes on from the gate in steps, and each step has one entry.
* `Generator.trail_run`: so does a run, from an empty gate and an empty tape.
-/

namespace QuoteBridge

/-- An entry of a tape: a subscription begins, the one of an item ends, all of them end, or a payload
is sent and accepted or not. -/
inductive Generator.Entry
  | registered (i : Item) (n : SubscriptionId)
  | ended (i : Item)
  | cleared
  | sent (p : Payload) (accepted : Bool)

/-- A bus of type `β` with its tape. -/
abbrev Taped (β : Type) := β × List Generator.Entry

/-- A link that notes what is sent over it. -/
def Link.taped {β : Type} (link : Link β) : Link (Taped β) where
  connect now b := ((link.connect now b.1).1, (link.connect now b.1).2, b.2)
  reset now b := (link.reset now b.1, b.2)
  send now ch p b :=
    let r := link.send now ch p b.1
    (r.1, r.2, b.2 ++ [.sent p r.1.isOk])
  listen now b := (link.listen now b.1, b.2)

namespace Generator

variable {β H : Type}

section Acts

/-- Something that happens to a generator.  A place is one in the list of supervisors, from which on
the first one that is due goes on. -/
inductive Act (β : Type)
  | start
  | wire
  | receive (p : Payload)
  | event (e : MarketEvent)
  | tick
  | lose
  | dial (place : Nat)
  | beat
  | trade
  | shutdown
  | release
  | wait (span : Nat)
  | setClock (seconds : Nat)
  | changeBus (b : β)

/-- What a payload begins and ends. -/
def marks (p : Payload) (g : Generator) : List Entry :=
  match readRequest p with
  | some (.subscribe i n) => [.registered i n]
  | some (.unsubscribe i n) => if (g.gate.unsubscribe i n).1 = .removed then [.ended i] else []
  | some .reset => [.cleared]
  | none => []

/-- Adds entries to the tape. -/
def mark (es : List Entry) (s : Scene (Taped β) H) : Scene (Taped β) H :=
  { s with bus := (s.bus.1, s.bus.2 ++ es) }

def perform (link : Link β) :
    Act β → Generator × Scene (Taped β) H → Generator × Scene (Taped β) H
  | .start, x => start link.taped x.1 x.2
  | .wire, x => (x.1.wire, x.2)
  | .receive p, x => receive link.taped p x.1 (mark (marks p x.1) x.2)
  | .event e, x => onEvent link.taped e x.1 x.2
  | .tick, x => (tick link.taped x.1 x.2).2
  | .lose, x => (x.1.transportError, mark [.cleared] x.2)
  | .dial k, x =>
      (superviseFrom link.taped x.1 x.2 (x.1.supervisors.take k) (x.1.supervisors.drop k)).getD x
  | .beat, x =>
      match postpone? x.2.now x.1.config.heartbeatInterval x.1.heartbeats with
      | some hs => publishHeartbeat link.taped { x.1 with heartbeats := hs } x.2
      | none => x
  | .trade, x =>
      match postpone? x.2.now x.1.config.tickInterval x.1.ticks with
      | some ts => (tick link.taped { x.1 with ticks := ts } x.2).2
      | none => x
  | .shutdown, x => shutdown link.taped x.1 x.2
  | .release, x => (x.1.release, x.2)
  | .wait span, x => (x.1, { x.2 with now := x.2.now + span })
  | .setClock seconds, x => (x.1, { x.2 with clock := seconds })
  | .changeBus b, x => (x.1, { x.2 with bus := (b, x.2.bus.2) })

/-- Performs acts in turn. -/
def run (link : Link β) (acts : List (Act β)) (x : Generator × Scene (Taped β) H) :
    Generator × Scene (Taped β) H :=
  acts.foldl (fun x act => perform link act x) x

/-- What a generator does by itself is an act. -/
theorem exists_perform_of_step? {link : Link β} {g : Generator} {s : Scene (Taped β) H}
    {r : Generator × Scene (Taped β) H} (h : step? link.taped g s = some r) :
    ∃ act, perform link act (g, s) = r := by
  unfold step? at h
  cases hd : superviseFrom link.taped g s [] g.supervisors with
  | some r' =>
      rw [hd] at h
      exact ⟨.dial 0, by simpa [perform, hd] using h⟩
  | none =>
      rw [hd] at h
      cases hb : postpone? s.now g.config.heartbeatInterval g.heartbeats with
      | some hs => exact ⟨.beat, by simpa [perform, hb] using h⟩
      | none =>
          rw [hb] at h
          cases ht : postpone? s.now g.config.tickInterval g.ticks with
          | some ts => exact ⟨.trade, by simpa [perform, ht] using h⟩
          | none => simp [ht] at h

end Acts

section Steps

/-- What can happen to the gate, and what the tape has of it. -/
inductive Step (g : Gate) : List Entry → Gate → Prop
  | quiet : Step g [] g
  | registered (i : Item) (n : SubscriptionId) : Step g [.registered i n] (g.subscribe i n).2
  | ended {i : Item} {n : SubscriptionId} (h : (g.unsubscribe i n).1 = .removed) :
      Step g [.ended i] (g.unsubscribe i n).2
  | cleared : Step g [.cleared] .empty
  | beat (e : Epoch) (accepted : Bool) : Step g [.sent (Message.heartbeat e).encode accepted] g
  | passed {e : MarketEvent} {n : SubscriptionId} {isSnapshot : Bool}
      (h : (g.pass e.item e.isSnapshot).1 = .publish n isSnapshot) (epoch : Epoch)
      (accepted : Bool) :
      Step g [.sent (Message.update ⟨e.item, e.fields, isSnapshot, n, epoch⟩).encode accepted]
        (g.pass e.item e.isSnapshot).2

/-- Steps in turn, from an empty gate. -/
inductive Trail : List Entry → Gate → Prop
  | start : Trail [] .empty
  | step {tape es : List Entry} {g g' : Gate} (h : Trail tape g) (hs : Step g es g') :
      Trail (tape ++ es) g'

variable {link : Link β} {g : Generator} {s : Scene (Taped β) H}

theorem Trail.beat (h : Trail s.bus.2 g.gate) :
    Trail (publishHeartbeat link.taped g s).2.bus.2 (publishHeartbeat link.taped g s).1.gate := by
  obtain ⟨o, m, hsent⟩ := publishHeartbeat_through link.taped g s
  rw [hsent]
  exact h.step (.beat g.epoch _)

theorem Trail.onEvent (e : MarketEvent) (h : Trail s.bus.2 g.gate) :
    Trail (onEvent link.taped e g s).2.bus.2 (onEvent link.taped e g s).1.gate := by
  obtain ⟨o, m, hsent⟩ := onEvent_through link.taped e g s
  rw [hsent]
  cases hd : (g.gate.pass e.item e.isSnapshot).1 with
  | drop =>
      have hsame := g.gate.pass_of_drop hd
      simpa [emits, passed, published, hd, hsame] using h
  | publish n isSnapshot =>
      simp only [emits, passed, hd]
      exact h.step (.passed hd g.epoch _)

theorem Trail.hear (e : MarketEvent) (h : Trail s.bus.2 g.gate) :
    Trail (hear link.taped e g s).2.bus.2 (hear link.taped e g s).1.gate := by
  unfold Generator.hear
  split
  · exact h.onEvent e
  · exact h

theorem Trail.tick (h : Trail s.bus.2 g.gate) :
    Trail (tick link.taped g s).2.2.bus.2 (tick link.taped g s).2.1.gate :=
  Trail.hear (g := { g with market := (g.market.tick s.clock).2 }) _ h

/-- A request begins or ends subscriptions, and is answered. -/
theorem Trail.receive (p : Payload) (h : Trail s.bus.2 g.gate) :
    Trail (receive link.taped p g (mark (marks p g) s)).2.bus.2
      (receive link.taped p g (mark (marks p g) s)).1.gate := by
  unfold Generator.receive
  cases hp : readRequest p with
  | none => simpa [marks, mark, hp, Scene.count] using h
  | some r =>
      cases r with
      | reset => simpa [marks, mark, hp, handle, Scene.count, Gate.apply] using h.step .cleared
      | unsubscribe i n =>
          by_cases hr : (g.gate.unsubscribe i n).1 = .removed
          · simpa [marks, mark, hp, hr, handle, Scene.count, Gate.apply] using h.step (.ended hr)
          · have hsame : (g.gate.unsubscribe i n).2 = g.gate := g.gate.unsubscribe_of_ne_removed hr
            simpa [marks, mark, hp, hr, handle, Scene.count, Gate.apply, hsame] using h
      | subscribe i n =>
          have hregistered := h.step (.registered i n)
          refine Trail.hear (g := { g with gate := g.gate.apply (.subscribe i n) })
            (g.market.currentEvent i) ?_
          simpa [marks, mark, hp, Scene.count, Gate.apply] using hregistered

/-- Supervisors send nothing and leave the gate alone. -/
theorem superviseFrom_tape {r : Generator × Scene (Taped β) H} {done vs : List Supervisor}
    (h : superviseFrom link.taped g s done vs = some r) :
    r.1.gate = g.gate ∧ r.2.bus.2 = s.bus.2 := by
  obtain ⟨v, others, left, w, hw, rfl⟩ := superviseFrom_turn h
  subst hw
  refine Supervisor.turn_induction (dialer link.taped)
    (P := fun w => w.1.gate = g.gate ∧ w.2.bus.2 = s.bus.2) (fun w hw => hw) (fun w hw => hw)
    (fun w hw => ?_) (fun ok w hw => hw) (fun w hw => hw) s.now v ⟨rfl, rfl⟩
  refine ⟨?_, hw.2⟩
  show w.1.stopIfGone.gate = g.gate
  unfold stopIfGone
  split
  · exact hw.1
  · exact hw.1

theorem Trail.perform {x : Generator × Scene (Taped β) H} (h : Trail x.2.bus.2 x.1.gate)
    (act : Act β) :
    Trail (Generator.perform link act x).2.bus.2 (Generator.perform link act x).1.gate := by
  cases act with
  | receive p => exact h.receive p
  | event e => exact h.onEvent e
  | tick => exact h.tick
  | lose => exact h.step .cleared
  | dial k =>
      simp only [Generator.perform]
      cases hd : superviseFrom link.taped x.1 x.2 (x.1.supervisors.take k)
          (x.1.supervisors.drop k) with
      | none => exact h
      | some r =>
          obtain ⟨hgate, htape⟩ := superviseFrom_tape hd
          rw [Option.getD_some, hgate, htape]
          exact h
  | beat =>
      simp only [Generator.perform]
      split
      · exact Trail.beat h
      · exact h
  | trade =>
      simp only [Generator.perform]
      split
      · exact Trail.tick h
      · exact h
  | release =>
      show Trail x.2.bus.2 x.1.release.gate
      unfold release stopIfGone
      split
      · exact h
      · exact h
  | _ => exact h

/-- The state of a generator that was only just made, at a bus. -/
def fresh (g : Generator) (clock : Nat) (b : β) : Generator × Scene (Taped β) H :=
  (g, .initial clock (b, []))

theorem Trail.run {x : Generator × Scene (Taped β) H} (h : Trail x.2.bus.2 x.1.gate)
    (acts : List (Act β)) :
    Trail (Generator.run link acts x).2.bus.2 (Generator.run link acts x).1.gate := by
  induction acts generalizing x with
  | nil => exact h
  | cons act acts ih => exact ih (h.perform act)

/-- A run goes on from an empty gate in steps. -/
theorem trail_run {c : GeneratorConfig} (hg : create c = .ok g) (clock : Nat) (b : β)
    (acts : List (Act β)) :
    Trail (run link acts (fresh (H := H) g clock b)).2.bus.2
      (run link acts (fresh (H := H) g clock b)).1.gate := by
  obtain ⟨o, rfl⟩ := eq_of_create hg
  exact Trail.start.run acts

end Steps

end Generator
end QuoteBridge
