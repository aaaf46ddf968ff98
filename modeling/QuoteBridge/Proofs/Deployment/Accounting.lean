import QuoteBridge.Proofs.Adapter.Ledger
import QuoteBridge.Proofs.Deployment.Run
import QuoteBridge.Proofs.Generator.Ledger

/-!
# Message accounting

The counters of the two sides add up: every payload that comes in is in one of them, every call of
the consumer is, and every payload that the broker routed is.

**Deployments.**  The adapter and any number of generators come, act, are shut down and go at any
time and in any order, while the broker goes up and down.  Work that is due at one instant is done
in any order, the deployment's own among them.

**Results.**
* `Deployment.Deed.booked`, `Deployment.Course.booked`: whatever happens, the scene changes by
  entries of the ledger, with a posting for each payload that is handed to a party.
* `Deployment.Course.step?`, `Deployment.Course.settle`, `Deployment.Course.sleep`: what a
  deployment does by itself is part of such a course.
* `messages_add_up`: the equations between the counters.
-/

namespace QuoteBridge

theorem exists_of_bind_eq_ok {ε α γ : Type} {x : Except ε α} {f : α → Except ε γ} {c : γ}
    (h : x >>= f = .ok c) : ∃ a, x = .ok a ∧ f a = .ok c := by
  cases x with
  | error e => cases h
  | ok a => exact ⟨a, rfl, h⟩

namespace Broker

/-- What some session of a party has for it next, and the broker behind it. -/
def HandsOut (b : Broker Party) (p : Party) (i : Inbound) (b' : Broker Party) : Prop :=
  ∃ e s s', (p, e) ∈ b.endpoints ∧ e.session = some s ∧ s.next? b.outages = some (i, s') ∧
    b' = b.setSession p s'

theorem exists_of_pendingAmong? {κ : Type} {outages : Nat} {k : κ} {l : Option Nat} {i : Inbound}
    {s' : Option Session} {es : List (κ × Endpoint)}
    (h : pendingAmong? outages es = some (k, l, i, s')) :
    ∃ e s, (k, e) ∈ es ∧ e.session = some s ∧ s.next? outages = some (i, s') := by
  induction es with
  | nil => cases h
  | cons head es ih =>
      obtain ⟨k₀, e₀⟩ := head
      have hskip : pendingAmong? outages es = some (k, l, i, s') →
          ∃ e s, (k, e) ∈ (k₀, e₀) :: es ∧ e.session = some s ∧ s.next? outages = some (i, s') := by
        intro h
        obtain ⟨e, s, hm, hs, hn⟩ := ih h
        exact ⟨e, s, List.mem_cons_of_mem _ hm, hs, hn⟩
      cases hs : e₀.session with
      | none => exact hskip (by simpa [pendingAmong?, hs] using h)
      | some s =>
          cases hn : s.next? outages with
          | none => exact hskip (by simpa [pendingAmong?, hs, hn] using h)
          | some r =>
              simp only [pendingAmong?, hs, hn, Option.some.injEq, Prod.mk.injEq] at h
              obtain ⟨rfl, -, rfl, rfl⟩ := h
              exact ⟨e₀, s, List.mem_cons_self, hs, hn⟩

/-- What the broker hands out next, a session has for its party. -/
theorem handsOut_of_next? {b b' : Broker Party} {p : Party} {i : Inbound}
    (h : Carrier.next? b = some ((p, i), b')) : b.HandsOut p i b' := by
  obtain ⟨⟨⟨p₀, l, i₀⟩, b₀⟩, hn, hr⟩ := Option.map_eq_some_iff.mp h
  obtain ⟨⟨rfl, rfl⟩, rfl⟩ := Prod.mk.injEq .. ▸ hr
  obtain ⟨⟨p₁, l₁, i₁, s'⟩, hp, hr⟩ := Option.map_eq_some_iff.mp hn
  obtain ⟨⟨rfl, rfl, rfl⟩, rfl⟩ := Prod.mk.injEq .. ▸ hr
  obtain ⟨e, s, hm, hs, hnext⟩ := exists_of_pendingAmong? hp
  exact ⟨e, s, s', hm, hs, hnext, rfl⟩

/-- The broker counts the payloads that it routes. -/
def meter : Meter (Broker Party) := .ofCount Broker.routed

theorem meter_reads (p : Party) (listener : Nat) : meter.Reads (Broker.link p listener) where
  connect _ b := by
    show (b.connect p).2.routed = b.routed
    rcases connect_cases p b with ⟨-, -, -, hb⟩ | ⟨-, hb⟩
    · rw [hb]
      rfl
    · rw [hb]
  reset _ _ := rfl
  listen _ _ := rfl
  send _ ch x b := by
    show (b.send p ch x).2.routed = b.routed + (Volume.ofSend ch (b.send p ch x).1).taken
    rcases send_cases p ch x b with ⟨hok, ha, -, hb⟩ | ⟨⟨f, herror⟩, hb⟩
    · rw [hok, hb, route, if_pos ha]
      cases ch <;> rfl
    · rw [herror, hb]
      cases ch <;> rfl

end Broker

namespace Deployment

open Scene

section Deeds

/-- Whether a party is there to be given something. -/
def isThere (p : Party) (d : Deployment (Broker Party)) : Bool :=
  match p with
  | .adapter => d.adapter.isSome
  | .generator name => (d.generator? name).isSome

/-- The payloads that a party is given. -/
def handed (p : Party) (i : Inbound) (d : Deployment (Broker Party)) : List (Party × Payload) :=
  match i with
  | .payload x => if d.isThere p then [(p, x)] else []
  | .lost => []

/-- Something that happens to a deployment, and the payloads that it hands to the parties. -/
inductive Deed (d : Deployment (Broker Party)) :
    List (Party × Payload) → Deployment (Broker Party) → Prop
  | addAdapter (c : AdapterConfig) {d' : Deployment (Broker Party)} (h : d.addAdapter c = .ok d') :
      Deed d [] d'
  | addGenerator (name : String) (c : GeneratorConfig) {d' : Deployment (Broker Party)}
      (h : d.addGenerator name c = .ok d') : Deed d [] d'
  | removeGenerator (name : String) : Deed d [] (d.removeGenerator name)
  | join (p : Party) (role : Role) (queue topic : String) : Deed d [] (d.join p role queue topic)
  | declare (name : String) : Deed d [] (d.mapBus (Broker.declare name))
  | available (value : Bool) : Deed d [] (d.mapBus (Broker.setAvailable value))
  | hold (value : Bool) : Deed d [] (d.hold value)
  | time (now clock : Nat) : Deed d [] { d with scene := { d.scene with now := now, clock := clock } }
  /-- The adapter acts on its own bus, where payloads come from nowhere else. -/
  | adapterActs (act : Adapter.Act (Broker Party) String) (hp : act.payload? = none)
      (hb : ∀ b, act ≠ .changeBus b) :
      Deed d [] (d.withAdapter (fun a s => Adapter.perform (Broker.link .adapter 0) act (a, s)))
  | generatorActs (name : String)
      {f : Generator → Scene (Broker Party) String → Generator × Scene (Broker Party) String}
      (h : ∀ g s, Generator.Acts (Broker.link (.generator name) 0) g s (f g s)) :
      Deed d [] (d.withGenerator name f)
  /-- The first generator with work of its own does a piece of it. -/
  | generatorsWork {r : List (String × Generator) × Scene (Broker Party) String}
      (h : stepGenerators? d.scene [] d.generators = some r) :
      Deed d [] { d with generators := r.1, scene := r.2 }
  | handOver {p : Party} {i : Inbound} {b : Broker Party} (h : d.scene.bus.HandsOut p i b) :
      Deed d (d.handed p i) ({ d with scene := { d.scene with bus := b } }.receive p i)

/-- What becomes of a deployment that begins without parties, and the payloads that the parties are
given on the way. -/
inductive Course : List (Party × Payload) → Deployment (Broker Party) → Prop
  | create (clock capacity : Nat) : Course [] (create clock (Broker.create capacity))
  | deed {given more : List (Party × Payload)} {d d' : Deployment (Broker Party)}
      (h : Course given d) (hd : Deed d more d') : Course (given ++ more) d'

/-- How a payload is accounted for by the party that is given it. -/
def postingOf (x : Party × Payload) : Posting :=
  match x.1 with
  | .adapter => .received
  | .generator _ => .handled (Generator.handledAs x.2)

end Deeds

section Entries

variable {d d' : Deployment (Broker Party)}

theorem booked_withAdapter {ps : List Posting}
    {f : Adapter String → Scene (Broker Party) String →
      Adapter String × Scene (Broker Party) String}
    (h : ∀ a, d.adapter = some a → Booked Broker.meter d.scene ps (f a d.scene).2)
    (hnone : d.adapter = none → ps = []) :
    Booked Broker.meter d.scene ps (d.withAdapter f).scene := by
  unfold withAdapter
  cases ha : d.adapter with
  | none =>
      rw [hnone ha]
      exact .refl
  | some a => exact h a ha

theorem booked_withGenerator {name : String} {ps : List Posting}
    {f : Generator → Scene (Broker Party) String → Generator × Scene (Broker Party) String}
    (h : ∀ g, d.generator? name = some g → Booked Broker.meter d.scene ps (f g d.scene).2)
    (hnone : d.generator? name = none → ps = []) :
    Booked Broker.meter d.scene ps (d.withGenerator name f).scene := by
  unfold withGenerator
  cases hg : d.generator? name with
  | none =>
      rw [hnone hg]
      exact .refl
  | some g => exact h g hg

theorem booked_stepGenerators? {s : Scene (Broker Party) String}
    {done gs : List (String × Generator)}
    {r : List (String × Generator) × Scene (Broker Party) String}
    (h : stepGenerators? s done gs = some r) : Booked Broker.meter s [] r.2 := by
  induction gs generalizing done with
  | nil => cases h
  | cons e gs ih =>
      obtain ⟨name, g⟩ := e
      unfold stepGenerators? at h
      split at h
      · rename_i r' hr
        cases h
        exact Generator.booked_acts (Broker.meter_reads _ 0) (Generator.acts_of_step? hr)
      · exact ih h

theorem booked_receive (p : Party) (i : Inbound) (d : Deployment (Broker Party)) :
    Booked Broker.meter d.scene ((d.handed p i).map postingOf) (d.receive p i).scene := by
  cases p with
  | adapter =>
      cases i with
      | payload x =>
          refine booked_withAdapter (fun a ha => ?_) (fun hnone => ?_)
          · have hone : (d.handed .adapter (.payload x)).map postingOf = [.received] := by
              simp [handed, isThere, ha, postingOf]
            rw [hone]
            exact Adapter.booked_receive x a d.scene
          · simp [handed, isThere, hnone]
      | lost => exact booked_withAdapter (fun a _ => Adapter.booked_degrade .bus a _) (fun _ => rfl)
  | generator name =>
      cases i with
      | payload x =>
          refine booked_withGenerator (fun g hg => ?_) (fun hnone => ?_)
          · have hone : (d.handed (.generator name) (.payload x)).map postingOf =
                [.handled (Generator.handledAs x)] := by
              simp [handed, isThere, hg, postingOf]
            rw [hone]
            exact Generator.booked_receive (Broker.meter_reads _ 0) x g d.scene
          · simp [handed, isThere, hnone]
      | lost => exact booked_withGenerator (fun g _ => .refl) (fun _ => rfl)

/-- Whatever happens, the scene changes by entries. -/
theorem Deed.booked {given : List (Party × Payload)} (h : Deed d given d') :
    Booked Broker.meter d.scene (given.map postingOf) d'.scene := by
  cases h with
  | addAdapter c h =>
      obtain ⟨a, -, hd⟩ := exists_of_bind_eq_ok h
      cases hd
      exact Outbox.booked_announce a.outbox d.scene
  | addGenerator name c h =>
      obtain ⟨g, -, hd⟩ := exists_of_bind_eq_ok h
      cases hd
      exact Outbox.booked_announce g.outbox d.scene
  | removeGenerator name => exact (Entry.moved rfl).booked
  | join p role queue topic => exact (Entry.moved rfl).booked
  | declare name => exact (Entry.moved rfl).booked
  | available value => exact (Entry.moved rfl).booked
  | hold value => exact .refl
  | time now clock => exact (Entry.timed now clock).booked
  | adapterActs act hp hb =>
      refine booked_withAdapter (fun a _ => ?_) (fun _ => rfl)
      have hact := Adapter.booked_perform (Broker.meter_reads .adapter 0) _ (a, d.scene)
        (fun b h => absurd h (hb b))
      simpa [Adapter.Act.postings, hp] using hact
  | generatorActs name h =>
      exact booked_withGenerator
        (fun g _ => Generator.booked_acts (Broker.meter_reads _ 0) (h g d.scene)) (fun _ => rfl)
  | generatorsWork h => exact booked_stepGenerators? h
  | @handOver p i b h =>
      obtain ⟨e, s, s', -, -, -, rfl⟩ := h
      have hmoved : Entry Broker.meter d.scene []
          { d.scene with bus := d.scene.bus.setSession p s' } := .moved rfl
      have hgiven := booked_receive p i
        { d with scene := { d.scene with bus := d.scene.bus.setSession p s' } }
      exact hmoved.booked.trans hgiven

/-- All payloads of a course are accounted for. -/
theorem Course.booked {given : List (Party × Payload)} (h : Course given d) :
    ∃ clock capacity, Booked Broker.meter (.initial clock (Broker.create capacity))
      (given.map postingOf) d.scene := by
  induction h with
  | create clock capacity => exact ⟨clock, capacity, .refl⟩
  | deed h hd ih =>
      obtain ⟨clock, capacity, hb⟩ := ih
      rw [List.map_append]
      exact ⟨clock, capacity, hb.trans hd.booked⟩

end Entries

section Courses

variable {d d' : Deployment (Broker Party)} {given : List (Party × Payload)}

/-- The adapter may do any number of things in a row. -/
theorem Course.adapterActs (h : Course given d) (acts : List (Adapter.Act (Broker Party) String))
    (hacts : ∀ act ∈ acts, act.payload? = none ∧ ∀ b, act ≠ .changeBus b) :
    Course given
      (d.withAdapter (fun a s => Adapter.run (Broker.link .adapter 0) acts (a, s))) := by
  induction acts generalizing d with
  | nil =>
      have hsame : d.withAdapter
          (fun a s => Adapter.run (Broker.link .adapter 0) ([] : List _) (a, s)) = d := by
        unfold withAdapter
        split
        · rfl
        · rename_i a ha
          simp [← ha]
      rw [hsame]
      exact h
  | cons act acts ih =>
      obtain ⟨hp, hb⟩ := hacts act List.mem_cons_self
      have hnext := ih (by simpa using h.deed (.adapterActs act hp hb))
        (fun act hm => hacts act (List.mem_cons_of_mem _ hm))
      cases ha : d.adapter with
      | none => simpa [withAdapter, ha] using hnext
      | some a => simpa [withAdapter, ha] using hnext

theorem Course.stepAdapter? (h : Course given d) (hs : d.stepAdapter? = some d') :
    Course given d' := by
  obtain ⟨a, ha, hs⟩ := Option.bind_eq_some_iff.mp hs
  obtain ⟨r, hr, rfl⟩ := Option.map_eq_some_iff.mp hs
  have hown (act : Adapter.Act (Broker Party) String) (hp : act.payload? = none)
      (hb : ∀ b, act ≠ .changeBus b)
      (hact : Adapter.perform (Broker.link .adapter 0) act (a, d.scene) = r) :
      Course given { d with adapter := some r.1, scene := r.2 } := by
    have hnext := h.deed (.adapterActs act hp hb)
    simpa [withAdapter, ha, hact] using hnext
  unfold Adapter.step? at hr
  split at hr
  · rename_i r' hd
    cases hr
    refine hown (.dial 0) rfl (fun b hb => by cases hb) ?_
    show (Adapter.superviseFrom (Broker.link .adapter 0) a d.scene [] a.supervisors).getD _ = r
    rw [show Adapter.superviseFrom (Broker.link .adapter 0) a d.scene [] a.supervisors = some r
      from hd, Option.getD_some]
  · split at hr
    · refine hown (.look 0) rfl (fun b hb => by cases hb) ?_
      show (Adapter.watchFrom a d.scene [] a.watchdogs).getD _ = r
      rw [hr, Option.getD_some]
    · cases hr

/-- A dispatch round is a number of acts in a row. -/
theorem Course.stepRound? (h : Course given d) (hs : d.stepRound? = some d') :
    Course given d' := by
  unfold Deployment.stepRound? at hs
  cases ha : d.adapter with
  | none => simp [ha] at hs
  | some a =>
      have hround : d' = d.withAdapter (Adapter.dispatchRound (Broker.link .adapter 0)) := by
        simp only [ha] at hs
        split at hs
        · cases hs
        · exact (Option.some.inj hs).symm
      have hacts := h.adapterActs
        (List.replicate a.book.pending.length .send ++ [.endRound]) (fun act hm => by
          rcases List.mem_append.mp hm with hm | hm
          · rw [List.eq_of_mem_replicate hm]
            exact ⟨rfl, fun b hb => by cases hb⟩
          · rw [List.mem_singleton.mp hm]
            exact ⟨rfl, fun b hb => by cases hb⟩)
      have hsame : d.withAdapter (Adapter.dispatchRound (Broker.link .adapter 0)) =
          d.withAdapter (fun b s => Adapter.run (Broker.link .adapter 0)
            (List.replicate a.book.pending.length .send ++ [.endRound]) (b, s)) := by
        simp only [withAdapter, ha, Adapter.dispatchRound_eq_run]
      rw [hround, hsame]
      exact hacts

/-- The deployment's own work is part of a course. -/
theorem Course.step? (h : Course given d) (hs : d.step? = some d') :
    ∃ more, Course (given ++ more) d' := by
  unfold Deployment.step? at hs
  split at hs
  · rename_i d' hbus
    cases hs
    obtain ⟨⟨⟨p, i⟩, b⟩, hn, rfl⟩ := Option.map_eq_some_iff.mp hbus
    exact ⟨_, h.deed (.handOver (Broker.handsOut_of_next? hn))⟩
  · split at hs
    · rename_i r ha
      cases hs
      exact ⟨[], by simpa using h.stepAdapter? ha⟩
    · split at hs
      · rename_i r hg
        cases hs
        exact ⟨[], h.deed (.generatorsWork hg)⟩
      · exact ⟨[], by simpa using h.stepRound? hs⟩

/-- What a course comes to, whatever is handed out on the way. -/
def Comes (d : Deployment (Broker Party)) : Prop := ∃ given, Course given d

theorem Comes.deed (h : d.Comes) {more : List (Party × Payload)} (hd : Deed d more d') :
    d'.Comes := by
  obtain ⟨given, h⟩ := h
  exact ⟨_, h.deed hd⟩

theorem Comes.step? (d d' : Deployment (Broker Party)) (h : d.Comes) (hs : d.step? = some d') :
    d'.Comes := by
  obtain ⟨given, h⟩ := h
  obtain ⟨more, hm⟩ := h.step? hs
  exact ⟨_, hm⟩

/-- So is all work of one instant. -/
theorem Comes.settle (h : d.Comes) : d.settle.Comes := Timeline.settle_induction Comes.step? h

/-- And so is what is done while time passes. -/
theorem Comes.sleep (span : Nat) (h : d.Comes) : (d.sleep span).Comes :=
  Timeline.sleep_induction Comes.step? (fun t d h => h.deed (.time t d.scene.clock)) span h

/-- A deployment that was assembled. -/
theorem comes_of_assemble {name : String} {ac : AdapterConfig} {gc : GeneratorConfig}
    {capacity : Nat} {queue topic : String} (h : assemble name ac gc capacity queue topic = .ok d) :
    d.Comes := by
  have hbus : ((create 0 (Broker.create capacity)).mapBus (Broker.declare queue) |>.mapBus
      (Broker.declare topic)).Comes :=
    Comes.deed (Comes.deed ⟨[], .create 0 capacity⟩ (.declare queue)) (.declare topic)
  unfold assemble at h
  obtain ⟨d₁, h₁, h⟩ := exists_of_bind_eq_ok h
  obtain ⟨d₂, h₂, h⟩ := exists_of_bind_eq_ok h
  cases h
  exact (((hbus.deed (.addAdapter ac h₁)).deed (.join _ _ _ _)).deed (.addGenerator name gc h₂)).deed
    (.join _ _ _ _)

theorem Comes.startAdapter (h : d.Comes) : d.startAdapter.Comes :=
  h.deed (.adapterActs .start rfl (fun b hb => by cases hb))

theorem Comes.startGenerator (name : String) (h : d.Comes) : (d.startGenerator name).Comes :=
  h.deed (.generatorActs name (fun _ _ => .start))

end Courses

end Deployment

namespace Deployment

variable {d : Deployment (Broker Party)} {given : List (Party × Payload)}

theorem count_received_postingOf (given : List (Party × Payload)) :
    (given.map postingOf).count .received = given.countP (fun x => x.1 = .adapter) := by
  rw [List.count, List.countP_map]
  refine List.countP_congr (fun x _ => ?_)
  obtain ⟨p, x⟩ := x
  cases p <;> simp [postingOf]

theorem count_handled_postingOf (command : HandledCommand) (given : List (Party × Payload)) :
    (given.map postingOf).count (.handled command) =
      given.countP (fun x => x.1 ≠ .adapter ∧ Generator.handledAs x.2 = command) := by
  rw [List.count, List.countP_map]
  refine List.countP_congr (fun x _ => ?_)
  obtain ⟨p, x⟩ := x
  cases p <;> simp [postingOf]

theorem snapshots_add_deltas (d : Deployment (Broker Party)) :
    d.snapshots + d.deltas = d.scene.deliveries.size := by
  rw [snapshots, deltas, ← Array.length_toList]
  simpa using (List.length_eq_countP_add_countP (fun c : Delivery String => c.isSnapshot)
    (l := d.scene.deliveries.toList)).symm

end Deployment

open Deployment in
/-- After any run of an adapter that begins without counts, at any bus: the payloads that came in are
those that are counted as heartbeats, as dropped updates or as delivered ones, the calls of the
consumer are those that are counted by kind, and each producer run that is counted was taken up by
replaying the subscriptions.  After any course of a deployment: the payloads that the broker routed
are those that are counted by the side that sent them, the payloads that the generators were given
are those that are counted by command, and the calls of the consumer are those that are counted by
kind. -/
theorem messages_add_up {β H : Type} {link : Link β} {acts : List (Adapter.Act β H)}
    {x y : Adapter H × Scene β H} (hx : Adapter.IsFresh x)
    (hzero : ∀ c, (∀ pool, c ≠ .envelopes pool) → x.2.metrics.count c = 0)
    (hy : Adapter.run link acts x = y) {given : List (Party × Payload)}
    {d : Deployment (Broker Party)} (hd : Course given d) :
    (acts.countP Adapter.Act.isReceive = y.2.metrics.inbound ∧
      y.2.deliveries.size = y.2.metrics.delivered ∧
      y.2.metrics.count .epochChanges =
        (Adapter.history link acts x).countP Adapter.Event.isRenewal ∧
      ∀ act (z : Adapter H × Scene β H) e, .renewed e ∈ Adapter.events link act z →
        (Adapter.perform link act z).1.book = (z.1.book.observe e).2.resubscribeAll) ∧
    (d.scene.bus.routed = d.scene.metrics.count .requestsDispatched +
        d.scene.metrics.count .heartbeatsPublished + d.scene.metrics.count .updatesPublished ∧
      (∀ command, d.scene.metrics.count (.requestsHandled command) =
        given.countP (fun h => h.1 ≠ .adapter ∧ Generator.handledAs h.2 = command)) ∧
      given.countP (fun h => h.1 = .adapter) = d.scene.metrics.inbound ∧
      d.snapshots + d.deltas = d.scene.metrics.delivered) := by
  subst hy
  have hrun := Adapter.booked_run link acts x
  obtain ⟨clock, capacity, hbooked⟩ := hd.booked
  refine ⟨⟨?_, ?_, ?_, fun act z e => Adapter.book_of_renewed⟩, ?_, fun command => ?_, ?_, ?_⟩
  · have hstart : x.2.metrics.inbound = 0 := by
      simp [Metrics.inbound, Metrics.discards, hzero]
    rw [hrun.inbound, hstart, Adapter.count_received_postings, Nat.zero_add]
  · have hstart : x.2.metrics.delivered = 0 := by simp [Metrics.delivered, hzero]
    have hnone : x.2.deliveries.size = 0 := by simp [Scene.deliveries, hx.journal]
    have hcalls := hrun.delivered
    omega
  · have hstart : x.2.metrics.count .epochChanges = 0 := hzero _ (by simp)
    have hnone : x.2.renewals = 0 := by simp [Scene.renewals, hx.journal]
    have hrenewals := hrun.renewals
    rw [← Adapter.renewals_run hx]
    omega
  · obtain ⟨t, ht, hsent⟩ := hbooked.outbound
    have hrouted : d.scene.bus.routed = 0 + t.taken := ht
    have hstart : (Scene.initial clock (Broker.create capacity) :
        Scene (Broker Party) String).metrics.outbound = 0 := rfl
    have hcounted : t.taken = d.scene.metrics.outbound.taken := by
      rw [hsent, hstart, Volume.taken_add]
      exact (Nat.zero_add _).symm
    rw [hrouted, hcounted, Metrics.taken_outbound]
    exact Nat.zero_add _
  · rw [hbooked.handled_count command, count_handled_postingOf]
    exact Nat.zero_add _
  · rw [hbooked.inbound, count_received_postingOf]
    exact (Nat.zero_add _).symm
  · have hcalls := hbooked.delivered
    have hstart : (Scene.initial clock (Broker.create capacity) :
        Scene (Broker Party) String).metrics.delivered = 0 := rfl
    have hnone : (Scene.initial clock (Broker.create capacity) :
        Scene (Broker Party) String).deliveries.size = 0 := rfl
    rw [snapshots_add_deltas]
    omega

open Deployment in
/-- The demonstrations: the adapter alone is given one payload, and the deployment gets so far that a
heartbeat is answered by a reset. -/
theorem messages_add_up_demo :
    (Adapter.run Recorder.link Adapter.demoActs Adapter.demoStart).2.metrics.inbound = 1 ∧
      ∃ given, Course given (demoStarted.sleep 60) ∧
        (demoStarted.sleep 60).scene.metrics.count .requestsDispatched +
          (demoStarted.sleep 60).scene.metrics.count .heartbeatsPublished +
            (demoStarted.sleep 60).scene.metrics.count .updatesPublished = 2 ∧
        given.countP (fun h => h.1 ≠ .adapter ∧ Generator.handledAs h.2 = .reset) = 1 := by
  have hassembled : assemble "g" .brisk demoConfig 1000 "q" "t" = .ok demo := rfl
  have hstarted : demoStarted.Comes :=
    (((comes_of_assemble hassembled).startAdapter.settle).startGenerator "g").settle
  obtain ⟨given, hheard⟩ := hstarted.sleep 60
  obtain ⟨⟨hinbound, -⟩, hrouted, hhandled, -⟩ :=
    messages_add_up Adapter.demoStart_isFresh (fun _ _ => rfl)
      (rfl : Adapter.run Recorder.link Adapter.demoActs Adapter.demoStart = _) hheard
  have hcount : (demoStarted.sleep 60).scene.bus.routed = 2 ∧
      (demoStarted.sleep 60).scene.metrics.count (.requestsHandled .reset) = 1 := by
    decide +kernel
  refine ⟨hinbound.symm, given, hheard, hrouted ▸ hcount.1, ?_⟩
  rw [← hhandled .reset]
  exact hcount.2

end QuoteBridge
