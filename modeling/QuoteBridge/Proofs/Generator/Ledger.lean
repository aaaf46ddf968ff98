import QuoteBridge.Generator
import QuoteBridge.Proofs.Metrics.Ledger
import QuoteBridge.Proofs.Reconnect.Turn

/-!
# The generator's accounts

Every function of the generator changes its scene by entries of the ledger.  A payload that comes
in is posted once, under the command that it turned out to be.

**Results.**
* `Generator.booked_receive`: a payload is accounted for once.
* `Generator.booked_acts`: no other act of a generator posts anything.
-/

namespace QuoteBridge

/-- How a control request is counted. -/
def Request.handledAs : Request → HandledCommand
  | .reset => .reset
  | .subscribe _ _ => .subscribe
  | .unsubscribe _ _ => .unsubscribe

namespace Generator

open Scene

variable {β H : Type} {m : Meter β} {link : Link β}

/-- How a payload on the request channel is counted. -/
def handledAs (p : Payload) : HandledCommand :=
  ((readRequest p).map Request.handledAs).getD .invalid

/-- What a generator can do of its own accord, or because it is told to.  A place is one in the list
of supervisors, from which on the first one that is due goes on. -/
inductive Acts (link : Link β) (g : Generator) (s : Scene β H) : Generator × Scene β H → Prop
  | idle : Acts link g s (g, s)
  | start : Acts link g s (start link g s)
  | wire : Acts link g s (g.wire, s)
  | tick (n : Nat) : Acts link g s (tickAll link n g s).2
  | event (e : MarketEvent) : Acts link g s (onEvent link e g s)
  | lose : Acts link g s (g.transportError, s)
  | dial (place : Nat) {r : Generator × Scene β H}
      (h : superviseFrom link g s (g.supervisors.take place) (g.supervisors.drop place) = some r) :
      Acts link g s r
  | beat {hs : List Nat} (h : postpone? s.now g.config.heartbeatInterval g.heartbeats = some hs) :
      Acts link g s (publishHeartbeat link { g with heartbeats := hs } s)
  | trade {ts : List Nat} (h : postpone? s.now g.config.tickInterval g.ticks = some ts) :
      Acts link g s (Generator.tick link { g with ticks := ts } s).2
  | shutdown : Acts link g s (shutdown link g s)
  | release : Acts link g s (g.release, s)

/-- What a generator does by itself. -/
theorem acts_of_step? {g : Generator} {s : Scene β H} {r : Generator × Scene β H}
    (h : step? link g s = some r) : Acts link g s r := by
  unfold step? at h
  split at h
  · rename_i r' hd
    cases h
    exact .dial 0 hd
  · split at h
    · rename_i hs hb
      cases h
      exact .beat hb
    · split at h
      · rename_i ts ht
        cases h
        exact .trade ht
      · cases h

variable (hl : m.Reads link)
include hl

section Publishing

theorem booked_publishHeartbeat (g : Generator) (s : Scene β H) :
    Booked m s [] (publishHeartbeat link g s).2 := by
  unfold publishHeartbeat
  dsimp only
  split
  · rename_i h
    exact Outbox.booked_counted hl rfl (congrArg (Volume.ofSend .updates) h).symm
  · rename_i e h
    exact Outbox.booked_uncounted hl (congrArg (Volume.ofSend .updates) h)

theorem booked_publishUpdate (u : Update) (g : Generator) (s : Scene β H) :
    Booked m s [] (publishUpdate link u g s).2 := by
  unfold publishUpdate
  dsimp only
  split
  · rename_i h
    exact Outbox.booked_counted hl rfl (congrArg (Volume.ofSend .updates) h).symm
  · rename_i e h
    exact Outbox.booked_uncounted hl (congrArg (Volume.ofSend .updates) h)

theorem booked_onEvent (e : MarketEvent) (g : Generator) (s : Scene β H) :
    Booked m s [] (onEvent link e g s).2 := by
  unfold onEvent
  dsimp only
  split
  · exact .refl
  · exact booked_publishUpdate hl _ _ s

theorem booked_hear (e : MarketEvent) (g : Generator) (s : Scene β H) :
    Booked m s [] (hear link e g s).2 := by
  unfold hear
  split
  · exact booked_onEvent hl e g s
  · exact .refl

theorem booked_tick (g : Generator) (s : Scene β H) : Booked m s [] (tick link g s).2.2 :=
  booked_hear hl _ _ s

theorem booked_tickAll (n : Nat) (g : Generator) (s : Scene β H) :
    Booked m s [] (tickAll link n g s).2.2 := by
  induction n generalizing g s with
  | zero => exact .refl
  | succ n ih => exact (booked_tick hl g s).trans (ih _ _)

end Publishing

theorem booked_handle (r : Request) (g : Generator) (s : Scene β H) :
    Booked m s [.handled r.handledAs] (handle link r g s).2 := by
  have hcounted : Booked m s [.handled r.handledAs] (s.count (.requestsHandled r.handledAs)) :=
    (Entry.handled r.handledAs).booked
  cases r with
  | reset => exact hcounted
  | subscribe i n => exact hcounted.trans (booked_hear hl _ _ _)
  | unsubscribe i n => exact hcounted

/-- A payload is accounted for once. -/
theorem booked_receive (p : Payload) (g : Generator) (s : Scene β H) :
    Booked m s [.handled (handledAs p)] (receive link p g s).2 := by
  unfold receive handledAs
  cases readRequest p with
  | none => exact (Entry.handled .invalid).booked
  | some r => exact booked_handle hl r g s

theorem booked_superviseFrom {g : Generator} {s : Scene β H} {r : Generator × Scene β H}
    {vs done : List Supervisor} (h : superviseFrom link g s done vs = some r) :
    Booked m s [] r.2 := by
  obtain ⟨v, others, left, w, rfl, rfl⟩ := superviseFrom_turn h
  exact Supervisor.turn_induction (dialer link)
    (P := fun w : Generator × Scene β H => Booked m s [] w.2)
    (fun w h => h.entry (.moved (hl.reset w.2.now w.2.bus)))
    (fun w h => h.entry (.moved (hl.connect w.2.now w.2.bus)))
    (fun w h => h) (fun _ w h => h.entry (.aside 1 rfl)) (fun w h => h) s.now v .refl

/-- No act of a generator posts anything. -/
theorem booked_acts {g : Generator} {s : Scene β H} {r : Generator × Scene β H}
    (h : Acts link g s r) : Booked m s [] r.2 := by
  cases h with
  | idle => exact .refl
  | start => exact (Entry.moved (hl.listen s.now s.bus)).booked
  | wire => exact .refl
  | tick n => exact booked_tickAll hl n g s
  | event e => exact booked_onEvent hl e g s
  | lose => exact .refl
  | dial place hd => exact booked_superviseFrom hl hd
  | beat hb => exact booked_publishHeartbeat hl _ s
  | trade ht => exact booked_tick hl _ s
  | shutdown => exact (Entry.moved (hl.reset s.now s.bus)).booked
  | release => exact .refl

end Generator
end QuoteBridge
