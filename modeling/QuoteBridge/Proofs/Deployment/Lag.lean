import QuoteBridge.Proofs.Adapter.Effects
import QuoteBridge.Proofs.Deployment.Piece
import QuoteBridge.Proofs.Generator.Effects

/-!
# Lag

The number of payloads that sessions have lost only grows, and nobody joins or leaves the broker,
whatever the parties do.

**Results.**
* `Duo.Piece.follows`: every piece of work keeps the roster and takes no loss back.
-/

namespace QuoteBridge

namespace Broker

variable {κ : Type}

/-- A later state of a broker: the same endpoints, and no fewer payloads lost. -/
def Follows (b b' : Broker κ) : Prop := b'.roster = b.roster ∧ b.lagged ≤ b'.lagged

theorem Follows.refl (b : Broker κ) : b.Follows b := ⟨rfl, Nat.le_refl _⟩

theorem Follows.trans {b₁ b₂ b₃ : Broker κ} (h : b₁.Follows b₂) (h' : b₂.Follows b₃) :
    b₁.Follows b₃ :=
  ⟨h'.1.trans h.1, Nat.le_trans h.2 h'.2⟩

variable [DecidableEq κ]

theorem follows_reset (k : κ) (b : Broker κ) : b.Follows (b.reset k) :=
  ⟨roster_reset k b, Nat.le_refl _⟩

theorem follows_connect (k : κ) (b : Broker κ) : b.Follows (b.connect k).2 :=
  ⟨roster_connect k b, Nat.le_of_eq (lagged_connect k b).symm⟩

theorem follows_sendAll (k : κ) (ch : Channel) (ps : List Payload) (b : Broker κ) :
    b.Follows (b.sendAll k ch ps) :=
  ⟨roster_sendAll ps b, lagged_le_sendAll ps b⟩

theorem follows_setSession (k : κ) (s : Option Session) (b : Broker κ) :
    b.Follows (b.setSession k s) :=
  ⟨roster_setSession k s b, Nat.le_refl _⟩

/-- What a session gives leaves a later state of its broker. -/
theorem Gives.follows {b b' : Broker Party} {p : Party} {i : Inbound} (h : b.Gives p i b') :
    b.Follows b' := by
  obtain ⟨s, source, s', -, -, rfl⟩ := h
  exact follows_setSession p s' b

end Broker

section Parties

variable {κ H : Type} [DecidableEq κ] {k : κ} {l : Nat}

theorem Adapter.superviseFrom_follows {a : Adapter H} {s : Scene (Broker κ) H}
    {r : Adapter H × Scene (Broker κ) H} {vs done : List Supervisor}
    (h : superviseFrom (Broker.link k l) a s done vs = some r) : s.bus.Follows r.2.bus := by
  obtain ⟨v, others, left, w, rfl, rfl⟩ := superviseFrom_turn h
  exact Supervisor.turn_induction (dialer (Broker.link k l))
    (P := fun w : Adapter H × Scene (Broker κ) H => s.bus.Follows w.2.bus)
    (fun w h => h.trans (Broker.follows_reset k _))
    (fun w h => h.trans (Broker.follows_connect k _))
    (fun w h => h) (fun _ w h => h) (fun w h => h) s.now v (Broker.Follows.refl s.bus)

theorem Generator.superviseFrom_follows {g : Generator} {s : Scene (Broker κ) H}
    {r : Generator × Scene (Broker κ) H} {vs done : List Supervisor}
    (h : superviseFrom (Broker.link k l) g s done vs = some r) : s.bus.Follows r.2.bus := by
  obtain ⟨v, others, left, w, rfl, rfl⟩ := superviseFrom_turn h
  exact Supervisor.turn_induction (dialer (Broker.link k l))
    (P := fun w : Generator × Scene (Broker κ) H => s.bus.Follows w.2.bus)
    (fun w h => h.trans (Broker.follows_reset k _))
    (fun w h => h.trans (Broker.follows_connect k _))
    (fun w h => h) (fun _ w h => h) (fun w h => h) s.now v (Broker.Follows.refl s.bus)

theorem Adapter.watchFrom_bus {β : Type} {a : Adapter H} {s : Scene β H}
    {r : Adapter H × Scene β H} {ws done : List Watchdog} (h : watchFrom a s done ws = some r) :
    r.2.bus = s.bus := by
  rcases watchFrom_effect h with ⟨ws', rfl⟩ | ⟨ws', rfl⟩
  · rfl
  · obtain ⟨subs, m, notes, -, hd⟩ := degrade_effect .producer a s
    rw [hd]

theorem Adapter.receive_bus {β : Type} (p : Payload) (a : Adapter H) (s : Scene β H) :
    (receive p a s).2.bus = s.bus := by
  generalize hr : receive p a s = r
  cases hr ▸ receive_effect p a s <;> rfl

theorem Adapter.transportError_bus {β : Type} (a : Adapter H) (s : Scene β H) :
    (transportError a s).2.bus = s.bus := by
  obtain ⟨subs, m, notes, -, h⟩ := transportError_effect a s
  rw [h]

theorem Adapter.dispatchRound_follows (a : Adapter H) (s : Scene (Broker κ) H) :
    s.bus.Follows (dispatchRound (Broker.link k l) a s).2.bus := by
  obtain ⟨o, m, h⟩ := dispatchAll_effect (k := k) (l := l) a.book.pending
    { a with book := a.book.clearPending } s
  rw [dispatchRound, h]
  exact Broker.follows_sendAll k .requests _ s.bus

theorem Generator.hear_follows (e : MarketEvent) (g : Generator) (s : Scene (Broker κ) H) :
    s.bus.Follows (hear (Broker.link k l) e g s).2.bus := by
  unfold hear
  split
  · obtain ⟨o, m, h⟩ := onEvent_effect (k := k) (l := l) e g s
    rw [h]
    exact Broker.follows_sendAll k .updates _ s.bus
  · exact Broker.Follows.refl s.bus

theorem Generator.receive_follows (p : Payload) (g : Generator) (s : Scene (Broker κ) H) :
    s.bus.Follows (receive (Broker.link k l) p g s).2.bus := by
  unfold receive
  split
  · exact Broker.Follows.refl s.bus
  · rename_i r _
    cases r with
    | reset => exact Broker.Follows.refl s.bus
    | unsubscribe i n => exact Broker.Follows.refl s.bus
    | subscribe i n =>
        exact hear_follows (g.market.currentEvent i)
          { g with gate := g.gate.apply (.subscribe i n) }
          (s.count (.requestsHandled .subscribe))

theorem Generator.publishHeartbeat_follows (g : Generator) (s : Scene (Broker κ) H) :
    s.bus.Follows (publishHeartbeat (Broker.link k l) g s).2.bus := by
  obtain ⟨o, m, h⟩ := publishHeartbeat_effect (k := k) (l := l) g s
  rw [h]
  exact Broker.follows_sendAll k .updates _ s.bus

end Parties

/-- Every piece of work keeps the roster and takes no loss back. -/
theorem Duo.Piece.follows {name : String} {x y : Duo} (h : Piece name x y) :
    x.bus.Follows y.bus := by
  cases h with
  | adapterDials place r h => exact Adapter.superviseFrom_follows h
  | adapterLooks place r h =>
      show x.bus.Follows r.2.bus
      rw [Adapter.watchFrom_bus h]
      exact Broker.Follows.refl x.bus
  | generatorDials place r h => exact Generator.superviseFrom_follows h
  | heartbeat hs h => exact Generator.publishHeartbeat_follows _ x.scene
  | trade ts h => exact Generator.hear_follows _ _ x.scene
  | round h => exact Adapter.dispatchRound_follows x.adapter x.scene
  | adapterHears p b h =>
      show x.bus.Follows (Adapter.receive p x.adapter (x.taken b)).2.bus
      rw [Adapter.receive_bus]
      exact h.follows
  | adapterLoses b h =>
      show x.bus.Follows (Adapter.transportError x.adapter (x.taken b)).2.bus
      rw [Adapter.transportError_bus]
      exact h.follows
  | generatorHears p b h =>
      exact h.follows.trans (Generator.receive_follows p x.generator (x.taken b))
  | generatorLoses b h => exact h.follows

end QuoteBridge
