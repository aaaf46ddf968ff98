import QuoteBridge.Proofs.Adapter.Effects
import QuoteBridge.Proofs.Deployment.Piece
import QuoteBridge.Proofs.Generator.Effects

/-!
# Growth of the journal

Work takes no time, and what the adapter has noted stays noted, whatever the parties do.  Nothing is
added by those who connect, send or publish.

**Results.**
* `Duo.Piece.grows`: every piece of work keeps the time and adds to the journal at most.
-/

namespace QuoteBridge

namespace Scene

variable {β H : Type} {s s' s'' : Scene β H}

/-- A scene of the same instant with the same journal. -/
structure Keeps (s s' : Scene β H) : Prop where
  now : s'.now = s.now
  journal : s'.journal = s.journal

/-- A scene of the same instant whose journal begins with that of the other. -/
structure Grows (s s' : Scene β H) : Prop where
  now : s'.now = s.now
  journal : s.journal.toList <+: s'.journal.toList

theorem Keeps.refl (s : Scene β H) : s.Keeps s := ⟨rfl, rfl⟩

theorem Keeps.trans (h : s.Keeps s') (h' : s'.Keeps s'') : s.Keeps s'' :=
  ⟨h'.now.trans h.now, h'.journal.trans h.journal⟩

theorem Keeps.carried (s : Scene β H) (b : β) (m : Metrics) :
    s.Keeps { s with bus := b, metrics := m } :=
  ⟨rfl, rfl⟩

theorem Keeps.grows (h : s.Keeps s') : s.Grows s' := ⟨h.now, by rw [h.journal]⟩

theorem Grows.trans (h : s.Grows s') (h' : s'.Grows s'') : s.Grows s'' :=
  ⟨h'.now.trans h.now, h.journal.trans h'.journal⟩

theorem Grows.noted (s : Scene β H) (m : Metrics) (notes : Array (Note H)) :
    s.Grows { s with metrics := m, journal := s.journal ++ notes } :=
  ⟨rfl, by rw [Array.toList_append]; exact List.prefix_append _ _⟩

theorem Grows.pushed (s : Scene β H) (m : Metrics) (n : Note H) :
    s.Grows { s with metrics := m, journal := s.journal.push n } :=
  ⟨rfl, by rw [Array.toList_push]; exact List.prefix_append _ _⟩

end Scene

section Parties

variable {κ H : Type} [DecidableEq κ] {k : κ} {l : Nat}

namespace Adapter

theorem superviseFrom_keeps {a : Adapter H} {s : Scene (Broker κ) H}
    {r : Adapter H × Scene (Broker κ) H} {vs done : List Supervisor}
    (h : superviseFrom (Broker.link k l) a s done vs = some r) : s.Keeps r.2 := by
  obtain ⟨v, others, left, w, rfl, rfl⟩ := superviseFrom_turn h
  exact Supervisor.turn_induction (dialer (Broker.link k l))
    (P := fun w : Adapter H × Scene (Broker κ) H => s.Keeps w.2)
    (fun w h => h.trans (.carried _ _ _)) (fun w h => h.trans (.carried _ _ _))
    (fun w h => h) (fun _ w h => h.trans (.carried _ _ _)) (fun w h => h) s.now v
    (Scene.Keeps.refl s)

theorem watchFrom_grows {β : Type} {a : Adapter H} {s : Scene β H} {r : Adapter H × Scene β H}
    {ws done : List Watchdog} (h : watchFrom a s done ws = some r) : s.Grows r.2 := by
  rcases watchFrom_effect h with ⟨ws', rfl⟩ | ⟨ws', rfl⟩
  · exact (Scene.Keeps.refl s).grows
  · obtain ⟨subs, m, notes, -, hd⟩ := degrade_effect .producer a s
    rw [hd]
    exact .noted s m notes

theorem receive_grows {β : Type} (p : Payload) (a : Adapter H) (s : Scene β H) :
    s.Grows (receive p a s).2 := by
  generalize hr : receive p a s = r
  cases hr ▸ receive_effect p a s with
  | ignored m hd => exact (Scene.Keeps.carried s _ m).grows
  | anew msg m hd he => exact .pushed s m _
  | known msg m hd he hu => exact .pushed s m _
  | delivered u sub m hd he hs hid => exact (Scene.Grows.pushed s m _).trans (.pushed _ m _)

theorem transportError_grows {β : Type} (a : Adapter H) (s : Scene β H) :
    s.Grows (transportError a s).2 := by
  obtain ⟨subs, m, notes, -, h⟩ := transportError_effect a s
  rw [h]
  exact .noted s m notes

theorem dispatchRound_keeps (a : Adapter H) (s : Scene (Broker κ) H) :
    s.Keeps (dispatchRound (Broker.link k l) a s).2 := by
  obtain ⟨o, m, h⟩ := dispatchAll_effect (k := k) (l := l) a.book.pending
    { a with book := a.book.clearPending } s
  rw [dispatchRound, h]
  exact .carried s _ m

end Adapter

namespace Generator

theorem superviseFrom_keeps {g : Generator} {s : Scene (Broker κ) H}
    {r : Generator × Scene (Broker κ) H} {vs done : List Supervisor}
    (h : superviseFrom (Broker.link k l) g s done vs = some r) : s.Keeps r.2 := by
  obtain ⟨v, others, left, w, rfl, rfl⟩ := superviseFrom_turn h
  exact Supervisor.turn_induction (dialer (Broker.link k l))
    (P := fun w : Generator × Scene (Broker κ) H => s.Keeps w.2)
    (fun w h => h.trans (.carried _ _ _)) (fun w h => h.trans (.carried _ _ _))
    (fun w h => h) (fun _ w h => h.trans (.carried _ _ _)) (fun w h => h) s.now v
    (Scene.Keeps.refl s)

theorem publishHeartbeat_keeps (g : Generator) (s : Scene (Broker κ) H) :
    s.Keeps (publishHeartbeat (Broker.link k l) g s).2 := by
  obtain ⟨o, m, h⟩ := publishHeartbeat_effect (k := k) (l := l) g s
  rw [h]
  exact .carried s _ m

theorem hear_keeps (e : MarketEvent) (g : Generator) (s : Scene (Broker κ) H) :
    s.Keeps (hear (Broker.link k l) e g s).2 := by
  unfold hear
  split
  · obtain ⟨o, m, h⟩ := onEvent_effect (k := k) (l := l) e g s
    rw [h]
    exact .carried s _ m
  · exact .refl s

theorem receive_keeps (p : Payload) (g : Generator) (s : Scene (Broker κ) H) :
    s.Keeps (receive (Broker.link k l) p g s).2 := by
  unfold receive
  split
  · exact .carried s _ _
  · rename_i r _
    cases r with
    | reset => exact .carried s _ _
    | unsubscribe i n => exact .carried s _ _
    | subscribe i n =>
        have hcounted : s.Keeps (s.count (.requestsHandled .subscribe)) := .carried s _ _
        exact hcounted.trans (hear_keeps (g.market.currentEvent i)
          { g with gate := g.gate.apply (.subscribe i n) } _)

end Generator

end Parties

/-- Every piece of work keeps the time and adds to the journal at most. -/
theorem Duo.Piece.grows {name : String} {x y : Duo} (h : Piece name x y) :
    x.scene.Grows y.scene := by
  have htaken : ∀ b, x.scene.Keeps (x.taken b) := fun b => .carried x.scene b _
  cases h with
  | adapterDials place r h => exact (Adapter.superviseFrom_keeps h).grows
  | adapterLooks place r h => exact Adapter.watchFrom_grows h
  | generatorDials place r h => exact (Generator.superviseFrom_keeps h).grows
  | heartbeat hs h => exact (Generator.publishHeartbeat_keeps _ x.scene).grows
  | trade ts h => exact (Generator.hear_keeps _ _ x.scene).grows
  | round h => exact (Adapter.dispatchRound_keeps x.adapter x.scene).grows
  | adapterHears p b h => exact (htaken b).grows.trans (Adapter.receive_grows p x.adapter _)
  | adapterLoses b h => exact (htaken b).grows.trans (Adapter.transportError_grows x.adapter _)
  | generatorHears p b h =>
      exact ((htaken b).trans (Generator.receive_keeps p x.generator _)).grows
  | generatorLoses b h => exact (htaken b).grows

end QuoteBridge
