import QuoteBridge.Adapter
import QuoteBridge.Generator
import QuoteBridge.Proofs.Bus.Session
import QuoteBridge.Proofs.Gate.Replay
import QuoteBridge.Proofs.Outbox.Sends
import QuoteBridge.Proofs.Reconnect.Turn

/-!
# What the two sides send

The payloads that a dispatch round and each piece of the generator's work put on the bus, in order.
Counters and envelopes are left open.

**Results.**
* `Adapter.dispatchOne_through`: at any bus a request is handed over once.
* `Adapter.dispatchRound_effect`: a round sends the waiting requests and leaves none.
* `Generator.onEvent_through`, `Generator.tick_through`: at any bus an event is published as the
  gate decides.
* `Generator.receive_through`: a payload is ignored, or its request reaches the gate and is answered.
* `Generator.onEvent_effect`, `Generator.tick_effect`, `Generator.receive_effect`: the same at a
  broker.
* `Generator.answers_subscribe`: a subscription is answered with the current values as its
  snapshot.
-/

namespace QuoteBridge

variable {κ H : Type} [DecidableEq κ] {k : κ} {l : Nat}

namespace Adapter

/-- The octets of a request. -/
def requestOctets (r : Request) : Payload := r.text.toUTF8

/-- At any bus a request is handed over once. -/
theorem dispatchOne_through {β : Type} (link : Link β) (r : Request) (a : Adapter H)
    (s : Scene β H) :
    ∃ o m, dispatchOne link r a s =
      ({ a with outbox := o },
        { s with bus := (link.send s.now .requests (requestOctets r) s.bus).2, metrics := m }) := by
  obtain ⟨o, m, h⟩ := Outbox.sendRequest_through link r a.outbox s
  simp only [dispatchOne, h]
  cases (link.send s.now .requests r.text.toUTF8 s.bus).1 with
  | ok u => exact ⟨o, _, rfl⟩
  | error f => exact ⟨o, _, rfl⟩

theorem dispatchOne_effect (r : Request) (a : Adapter H) (s : Scene (Broker κ) H) :
    ∃ o m, dispatchOne (Broker.link k l) r a s =
      ({ a with outbox := o },
        { s with bus := (s.bus.send k .requests (requestOctets r)).2, metrics := m }) :=
  dispatchOne_through (Broker.link k l) r a s

theorem dispatchAll_effect (rs : List Request) (a : Adapter H) (s : Scene (Broker κ) H) :
    ∃ o m, dispatchAll (Broker.link k l) rs a s =
      ({ a with outbox := o },
        { s with bus := s.bus.sendAll k .requests (rs.map requestOctets), metrics := m }) := by
  induction rs generalizing a s with
  | nil => exact ⟨a.outbox, s.metrics, rfl⟩
  | cons r rs ih =>
      obtain ⟨o, m, h⟩ := dispatchOne_effect (k := k) (l := l) r a s
      obtain ⟨o', m', h'⟩ := ih { a with outbox := o }
        { s with bus := (s.bus.send k .requests (requestOctets r)).2, metrics := m }
      exact ⟨o', m', by rw [dispatchAll, h, h']; rfl⟩

/-- A round sends the waiting requests and leaves none. -/
theorem dispatchRound_effect {a : Adapter H} (ha : a.released = false)
    (s : Scene (Broker κ) H) :
    ∃ o m, dispatchRound (Broker.link k l) a s =
      ({ a with book := a.book.clearPending, outbox := o, rounds := a.rounds - 1 },
        { s with
          bus := s.bus.sendAll k .requests (a.book.pending.map requestOctets)
          metrics := m }) := by
  obtain ⟨o, m, h⟩ := dispatchAll_effect (k := k) (l := l) a.book.pending
    { a with book := a.book.clearPending } s
  refine ⟨o, m, ?_⟩
  rw [dispatchRound, h]
  simp [retireIfGone, isPresent, ha]

end Adapter

namespace Generator

/-- A generator that was only just made. -/
theorem eq_of_create {c : GeneratorConfig} {g : Generator} (h : create c = .ok g) :
    ∃ o, g = ⟨c, c.epoch.getD 0, .empty, o, .ofSeed (c.seed.getD 0), 0, [], [], [], false, false⟩ := by
  unfold create at h
  cases ho : Outbox.create c.poolBatch with
  | error e => simp [ho, bind, Except.bind] at h
  | ok o =>
      simp only [ho, bind, Except.bind, pure, Except.pure, Except.ok.injEq] at h
      exact ⟨o, h.symm⟩

/-- What the generator publishes for an event that it hears. -/
def emits (e : MarketEvent) (g : Generator) : List Message :=
  match (g.gate.pass e.item e.isSnapshot).1 with
  | .drop => []
  | .publish id isSnapshot => [.update ⟨e.item, e.fields, isSnapshot, id, g.epoch⟩]

/-- The generator once its gate has decided about an event. -/
def passed (e : MarketEvent) (g : Generator) : Generator :=
  { g with gate := (g.gate.pass e.item e.isSnapshot).2 }

/-- The generator once a request has reached its gate, and what it publishes in answer. -/
def answers (r : Request) (g : Generator) : Generator × List Message :=
  match r with
  | .subscribe i _ =>
      let asked := { g with gate := g.gate.apply r }
      (asked.passed (g.market.currentEvent i), asked.emits (g.market.currentEvent i))
  | _ => ({ g with gate := g.gate.apply r }, [])

/-- An event of another item is no update of this one. -/
theorem ne_item_of_mem_emits {e : MarketEvent} {g : Generator} {u : Update} {i : Item}
    (hu : .update u ∈ g.emits e) (hi : i ≠ e.item) : u.item ≠ i := by
  unfold emits at hu
  split at hu
  · cases hu
  · cases List.mem_singleton.mp hu
    exact hi.symm

/-- A subscription that has its snapshot gets every event of its item. -/
theorem emits_of_sent {e : MarketEvent} {g : Generator} {n : SubscriptionId}
    (h : g.gate.tenure? e.item = some ⟨n, true⟩) :
    g.emits e = [.update ⟨e.item, e.fields, false, n, g.epoch⟩] := by
  simp [emits, g.gate.pass_of_sent h]

/-- A subscription is answered with the current values as its snapshot. -/
theorem answers_subscribe (i : Item) (n : SubscriptionId) (g : Generator) :
    (g.answers (.subscribe i n)).1.gate.tenure? i = some ⟨n, true⟩ ∧
      (g.answers (.subscribe i n)).2 = [.update ⟨i, g.market.values i, true, n, g.epoch⟩] := by
  obtain ⟨hd, ht⟩ := g.gate.pass_subscribe i n
  refine ⟨ht, ?_⟩
  show emits _ _ = _
  unfold emits
  simp only [Market.currentEvent, hd]

/-- A request for another item, or none at all, is answered with no update of this item. -/
theorem answers_of_ne {r : Request} {i : Item} (hr : ∀ n, r ≠ .subscribe i n) (g : Generator) :
    (g.answers r).1.gate.tenure? i = (g.gate.apply r).tenure? i ∧
      ∀ u, .update u ∈ (g.answers r).2 → u.item ≠ i := by
  cases r with
  | reset => exact ⟨rfl, fun u hu => by cases hu⟩
  | unsubscribe j n => exact ⟨rfl, fun u hu => by cases hu⟩
  | subscribe j n =>
      have hi : i ≠ j := fun h => hr n (h ▸ rfl)
      exact ⟨Gate.tenure?_pass_of_ne _ hi true, fun u hu => ne_item_of_mem_emits hu hi⟩

/-- The market does not move when requests are answered. -/
theorem market_answers (r : Request) (g : Generator) : (g.answers r).1.market = g.market := by
  cases r <;> rfl

/-- A tick changes no quote but that of its item. -/
theorem quoteOf_tick_of_ne {m : Market} {seconds : Nat} {i : Item}
    (hi : i ≠ (m.tick seconds).1) : (m.tick seconds).2.quoteOf i = m.quoteOf i := by
  have hindex : (m.tick seconds).1.index.val ≠ i.index.val := fun h =>
    hi (congrArg Item.mk (Fin.ext h.symm))
  exact Vector.getElem_set_ne (Fin.isLt _) i.index.isLt hindex

/-- Nor the values of any other item. -/
theorem values_tick_of_ne {m : Market} {seconds : Nat} {i : Item} (hi : i ≠ (m.tick seconds).1) :
    (m.tick seconds).2.values i = m.values i :=
  congrArg Quote.fields (quoteOf_tick_of_ne hi)

section Links

variable {β : Type} (link : Link β)

/-- The bus once messages have been published in a row. -/
def published (now : Nat) (ms : List Message) (b : β) : β :=
  ms.foldl (fun b m => (link.send now .updates m.encode b).2) b

theorem publishHeartbeat_through (g : Generator) (s : Scene β H) :
    ∃ o m, publishHeartbeat link g s =
      ({ g with outbox := o },
        { s with bus := published link s.now [.heartbeat g.epoch] s.bus, metrics := m }) := by
  obtain ⟨o, m, h⟩ := Outbox.publish_through link (.heartbeat g.epoch) g.outbox s
  simp only [publishHeartbeat, h]
  cases (link.send s.now .updates (Message.heartbeat g.epoch).encode s.bus).1 with
  | ok u => exact ⟨o, _, rfl⟩
  | error f => exact ⟨o, _, rfl⟩

theorem publishUpdate_through (u : Update) (g : Generator) (s : Scene β H) :
    ∃ o m, publishUpdate link u g s =
      ({ g with outbox := o },
        { s with bus := published link s.now [.update u] s.bus, metrics := m }) := by
  obtain ⟨o, m, h⟩ := Outbox.publish_through link (.update u) g.outbox s
  simp only [publishUpdate, h]
  cases (link.send s.now .updates (Message.update u).encode s.bus).1 with
  | ok u => exact ⟨o, _, rfl⟩
  | error f => exact ⟨o, _, rfl⟩

/-- An event is published as the gate decides. -/
theorem onEvent_through (e : MarketEvent) (g : Generator) (s : Scene β H) :
    ∃ o m, onEvent link e g s =
      ({ g.passed e with outbox := o },
        { s with bus := published link s.now (g.emits e) s.bus, metrics := m }) := by
  simp only [onEvent, emits, passed]
  cases hd : (g.gate.pass e.item e.isSnapshot).1 with
  | drop => exact ⟨g.outbox, s.metrics, rfl⟩
  | publish id isSnapshot =>
      exact publishUpdate_through link ⟨e.item, e.fields, isSnapshot, id, g.epoch⟩
        { g with gate := (g.gate.pass e.item e.isSnapshot).2 } s

variable {g : Generator}

variable {link} in
theorem hear_of_wired (hw : g.wired = true) (hr : g.released = false) (e : MarketEvent)
    (s : Scene β H) : hear link e g s = onEvent link e g s := by
  simp [hear, hw, isPresent, hr]

variable {link} in
/-- Nobody listens to the market of a generator that was not started. -/
theorem tick_of_unwired {s : Scene β H} (hw : g.wired = false) :
    (tick link g s).2 = ({ g with market := (g.market.tick s.clock).2 }, s) := by
  simp [tick, hear, hw]

/-- A tick moves the market, and its event is published as the gate decides. -/
theorem tick_through (hw : g.wired = true) (hr : g.released = false) (s : Scene β H) :
    ∃ o m, tick link g s =
      let i := (g.market.tick s.clock).1
      let traded := { g with market := (g.market.tick s.clock).2 }
      (i, { traded.passed (traded.market.tickEvent i) with outbox := o },
        { s with
          bus := published link s.now (traded.emits (traded.market.tickEvent i)) s.bus
          metrics := m }) := by
  obtain ⟨o, m, h⟩ := onEvent_through link
    ((g.market.tick s.clock).2.tickEvent (g.market.tick s.clock).1)
    { g with market := (g.market.tick s.clock).2 } s
  refine ⟨o, m, ?_⟩
  simp only [tick]
  rw [hear_of_wired (g := { g with market := (g.market.tick s.clock).2 }) hw hr, h]

/-- A payload is ignored, or its request reaches the gate and is answered. -/
theorem receive_through (hw : g.wired = true) (hr : g.released = false) (p : Payload)
    (s : Scene β H) :
    (readRequest p = none ∧ ∃ m, receive link p g s = (g, { s with metrics := m })) ∨
      ∃ r, readRequest p = some r ∧ ∃ o m, receive link p g s =
        ({ (g.answers r).1 with outbox := o },
          { s with bus := published link s.now (g.answers r).2 s.bus, metrics := m }) := by
  unfold receive
  cases hp : readRequest p with
  | none => exact Or.inl ⟨rfl, _, rfl⟩
  | some r =>
      refine Or.inr ⟨r, rfl, ?_⟩
      cases r with
      | reset => exact ⟨g.outbox, _, rfl⟩
      | unsubscribe i n => exact ⟨g.outbox, _, rfl⟩
      | subscribe i n =>
          obtain ⟨o, m, h⟩ := onEvent_through link (g.market.currentEvent i)
            { g with gate := g.gate.apply (.subscribe i n) }
            (s.count (.requestsHandled .subscribe))
          refine ⟨o, m, ?_⟩
          simp only [handle]
          rw [hear_of_wired (g := { g with gate := g.gate.apply (.subscribe i n) }) hw hr, h]
          rfl

end Links

section AtABroker

variable {g : Generator}

theorem published_link (now : Nat) (ms : List Message) (b : Broker κ) :
    published (Broker.link k l) now ms b = b.sendAll k .updates (ms.map Message.encode) := by
  rw [Broker.sendAll, List.foldl_map]
  rfl

theorem publishHeartbeat_effect (g : Generator) (s : Scene (Broker κ) H) :
    ∃ o m, publishHeartbeat (Broker.link k l) g s =
      ({ g with outbox := o },
        { s with
          bus := s.bus.sendAll k .updates [(Message.heartbeat g.epoch).encode]
          metrics := m }) :=
  publishHeartbeat_through (Broker.link k l) g s

theorem onEvent_effect (e : MarketEvent) (g : Generator) (s : Scene (Broker κ) H) :
    ∃ o m, onEvent (Broker.link k l) e g s =
      ({ g.passed e with outbox := o },
        { s with
          bus := s.bus.sendAll k .updates ((g.emits e).map Message.encode)
          metrics := m }) := by
  simpa only [published_link] using onEvent_through (Broker.link k l) e g s

theorem tick_effect (hw : g.wired = true) (hr : g.released = false) (s : Scene (Broker κ) H) :
    ∃ o m, tick (Broker.link k l) g s =
      let i := (g.market.tick s.clock).1
      let traded := { g with market := (g.market.tick s.clock).2 }
      (i, { traded.passed (traded.market.tickEvent i) with outbox := o },
        { s with
          bus := s.bus.sendAll k .updates
            ((traded.emits (traded.market.tickEvent i)).map Message.encode)
          metrics := m }) := by
  simpa only [published_link] using tick_through (Broker.link k l) hw hr s

theorem receive_effect (hw : g.wired = true) (hr : g.released = false) (p : Payload)
    (s : Scene (Broker κ) H) :
    (readRequest p = none ∧
        ∃ m, receive (Broker.link k l) p g s = (g, { s with metrics := m })) ∨
      ∃ r, readRequest p = some r ∧ ∃ o m, receive (Broker.link k l) p g s =
        ({ (g.answers r).1 with outbox := o },
          { s with
            bus := s.bus.sendAll k .updates ((g.answers r).2.map Message.encode)
            metrics := m }) := by
  simpa only [published_link] using receive_through (Broker.link k l) hw hr p s

end AtABroker

end Generator

end QuoteBridge
