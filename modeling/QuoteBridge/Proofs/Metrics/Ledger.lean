import QuoteBridge.Outbox

/-!
# The ledger of a scene

Whatever the two sides do, they change their scene by entries.  An entry changes a counter together
with what it stands for: a call of the consumer, a producer run that is taken up, or a payload that
the bus took.

**Postings.**  Payloads that come in leave no trace but the counters, so an entry that accounts for
one says so by a posting.

**Results.**
* `Scene.Booked.inbound`, `Scene.Booked.handled_count`: the counters of inbound payloads move with
  the postings.
* `Scene.Booked.delivered`, `Scene.Booked.renewals`: those of deliveries and of producer runs move
  with the journal.
* `Scene.Booked.outbound`: those of outbound payloads move with the bus.
-/

namespace QuoteBridge

/-- Numbers of payloads that a bus was sent: requests that it took, requests that it refused, and
updates that it took. -/
structure Volume where
  requests : Nat
  refusals : Nat
  updates : Nat
  deriving DecidableEq

namespace Volume

instance : Zero Volume := ⟨⟨0, 0, 0⟩⟩

instance : Add Volume :=
  ⟨fun t u => ⟨t.requests + u.requests, t.refusals + u.refusals, t.updates + u.updates⟩⟩

theorem add_def (t u : Volume) :
    t + u = ⟨t.requests + u.requests, t.refusals + u.refusals, t.updates + u.updates⟩ := rfl

theorem zero_def : (0 : Volume) = ⟨0, 0, 0⟩ := rfl

@[simp] theorem add_zero (t : Volume) : t + 0 = t := rfl

@[simp] theorem zero_add (t : Volume) : 0 + t = t := by
  simp only [add_def, zero_def, Nat.zero_add]

theorem add_assoc (t u v : Volume) : t + u + v = t + (u + v) := by
  simp only [add_def, Nat.add_assoc]

/-- One payload that was sent. -/
def ofSend (ch : Channel) (answer : BusResult) : Volume :=
  match ch, answer with
  | .requests, .ok _ => ⟨1, 0, 0⟩
  | .requests, .error _ => ⟨0, 1, 0⟩
  | .updates, .ok _ => ⟨0, 0, 1⟩
  | .updates, .error _ => 0

/-- All payloads that the bus took. -/
def taken (t : Volume) : Nat := t.requests + t.updates

theorem taken_add (t u : Volume) : (t + u).taken = t.taken + u.taken := by
  simp only [taken, add_def]
  omega

end Volume

section Meters

variable {β : Type}

/-- What is known about the traffic of a bus from one state to another. -/
structure Meter (β : Type) where
  carries : β → Volume → β → Prop
  none (b : β) : carries b 0 b
  more {b b' b'' : β} {t t' : Volume} (h : carries b t b') (h' : carries b' t' b'') :
    carries b (t + t') b''

namespace Meter

/-- Nothing is known. -/
def blind (β : Type) : Meter β where
  carries _ _ _ := True
  none _ := trivial
  more _ _ := trivial

/-- The bus itself counts the payloads that it takes. -/
def ofCount (count : β → Nat) : Meter β where
  carries b t b' := count b' = count b + t.taken
  none _ := rfl
  more h h' := by rw [h', h, Volume.taken_add, Nat.add_assoc]

/-- Over the link the bus carries just what it is sent. -/
structure Reads (m : Meter β) (link : Link β) : Prop where
  connect (now : Nat) (b : β) : m.carries b 0 (link.connect now b).2
  reset (now : Nat) (b : β) : m.carries b 0 (link.reset now b)
  listen (now : Nat) (b : β) : m.carries b 0 (link.listen now b)
  send (now : Nat) (ch : Channel) (p : Payload) (b : β) :
    m.carries b (.ofSend ch (link.send now ch p b).1) (link.send now ch p b).2

theorem reads_blind (link : Link β) : (blind β).Reads link where
  connect _ _ := trivial
  reset _ _ := trivial
  listen _ _ := trivial
  send _ _ _ _ := trivial

end Meter

end Meters

namespace Counter

/-- Whether a counter stands for inbound payloads of which nothing else is left. -/
def isReceipt : Counter → Bool
  | .heartbeatsReceived => true
  | .discarded _ => true
  | _ => false

/-- The traffic that a counter stands for. -/
def volume : Counter → Volume
  | .requestsDispatched => ⟨1, 0, 0⟩
  | .requestsFailed => ⟨0, 1, 0⟩
  | .heartbeatsPublished => ⟨0, 0, 1⟩
  | .updatesPublished => ⟨0, 0, 1⟩
  | _ => 0

/-- Whether a counter stands for payloads that were sent. -/
def isOutbound (c : Counter) : Bool := c.volume ≠ 0

/-- Whether a counter stands for something that is not accounted for. -/
def isAside : Counter → Bool
  | .attempts _ _ => true
  | .envelopes _ => true
  | .feedDown _ => true
  | _ => false

/-- Whether a counter stands for inbound payloads. -/
def isInbound : Counter → Bool
  | .delivered kind => kind ≠ .inactive
  | c => c.isReceipt

variable {c : Counter}

theorem isInbound_of_isReceipt (h : c.isReceipt = true) : c.isInbound = true := by
  cases c with
  | delivered kind => cases h
  | _ => exact h

theorem isInbound_of_isOutbound (h : c.isOutbound = true) : c.isInbound = false := by
  cases c <;> first | rfl | cases h

theorem isInbound_of_isAside (h : c.isAside = true) : c.isInbound = false := by
  cases c <;> first | rfl | cases h

theorem volume_of_isReceipt (h : c.isReceipt = true) : c.volume = 0 := by
  cases c <;> first | rfl | cases h

end Counter

namespace Metrics

variable (m : Metrics)

/-- Inbound updates that were dropped, for whatever reason. -/
def discards : Nat :=
  m.count (.discarded .unsubscribed) + m.count (.discarded .superseded) +
    m.count (.discarded .newEpoch) + m.count (.discarded .malformed)

/-- Inbound payloads that are accounted for: heartbeats, dropped updates and delivered ones. -/
def inbound : Nat :=
  m.count .heartbeatsReceived + m.discards + m.count (.delivered .snapshot) +
    m.count (.delivered .delta)

/-- Updates of any kind that were given to the consumer. -/
def delivered : Nat :=
  m.count (.delivered .snapshot) + m.count (.delivered .delta) + m.count (.delivered .inactive)

/-- Payloads that were sent by either side, as the counters have it. -/
def outbound : Volume :=
  ⟨m.count .requestsDispatched, m.count .requestsFailed,
    m.count .heartbeatsPublished + m.count .updatesPublished⟩

theorem count_bumpBy (c d : Counter) (n : Nat) :
    (m.bumpBy c n).count d = m.count d + if d = c then n else 0 := by
  by_cases h : d = c
  · subst h
    simp
  · simp [h, count_bumpBy_of_ne m h]

/-- A counter of one class is not changed by one of another class. -/
theorem count_bumpBy_of_class {f : Counter → Bool} {c d : Counter} (hc : f c = true)
    (hd : f d = false) (n : Nat) : (m.bumpBy c n).count d = m.count d := by
  refine count_bumpBy_of_ne m ?_ n
  rintro rfl
  rw [hc] at hd
  cases hd

theorem inbound_bumpBy (c : Counter) (n : Nat) :
    (m.bumpBy c n).inbound = m.inbound + if c.isInbound then n else 0 := by
  simp only [inbound, discards, count_bumpBy]
  cases c with
  | heartbeatsReceived => simp [Counter.isInbound, Counter.isReceipt]; omega
  | discarded reason => cases reason <;> simp [Counter.isInbound, Counter.isReceipt] <;> omega
  | delivered kind => cases kind <;> simp [Counter.isInbound] <;> omega
  | _ => simp [Counter.isInbound, Counter.isReceipt]

theorem count_bump (c d : Counter) : (m.bump c).count d = m.count d + if d = c then 1 else 0 :=
  m.count_bumpBy c d 1

theorem inbound_bump (c : Counter) :
    (m.bump c).inbound = m.inbound + if c.isInbound then 1 else 0 :=
  m.inbound_bumpBy c 1

theorem outbound_bump (c : Counter) : (m.bump c).outbound = m.outbound + c.volume := by
  simp only [outbound, count_bump]
  cases c with
  | heartbeatsPublished =>
      simp [Counter.volume, Volume.add_def]
      omega
  | _ => simp [Counter.volume, Volume.add_def, Volume.zero_def, Nat.add_assoc]

theorem taken_outbound :
    m.outbound.taken =
      m.count .requestsDispatched + m.count .heartbeatsPublished + m.count .updatesPublished :=
  (Nat.add_assoc _ _ _).symm

theorem outbound_bumpBy_of_isAside {c : Counter} (h : c.isAside = true) (n : Nat) :
    (m.bumpBy c n).outbound = m.outbound := by
  have hcount {d : Counter} (hd : d.isAside = false) : (m.bumpBy c n).count d = m.count d :=
    m.count_bumpBy_of_class h hd n
  rw [outbound, hcount rfl, hcount rfl, hcount rfl, hcount rfl, outbound]

end Metrics

/-- An inbound payload that was accounted for. -/
inductive Posting
  | received
  | handled (command : HandledCommand)
  deriving DecidableEq

namespace Scene

variable {β H : Type}

/-- Whether an entry of the journal tells of a new producer run. -/
def isRenewal : Note H → Bool
  | .subscribed _ _ => false
  | .heard _ _ isNew => isNew
  | .called _ => false

/-- Number of calls of one kind. -/
def calls (kind : DeliveryKind) (s : Scene β H) : Nat :=
  s.deliveries.toList.countP (fun c => c.kind = kind)

/-- Number of producer runs that were taken up. -/
def renewals (s : Scene β H) : Nat := s.journal.toList.countP isRenewal

/-- One change of a scene, with its postings. -/
inductive Entry (m : Meter β) (s : Scene β H) : List Posting → Scene β H → Prop
  | moved {b : β} (h : m.carries s.bus 0 b) : Entry m s [] { s with bus := b }
  | timed (now clock : Nat) : Entry m s [] { s with now := now, clock := clock }
  | aside {c : Counter} (n : Nat) (h : c.isAside = true) :
      Entry m s [] { s with metrics := s.metrics.bumpBy c n }
  | noted {note : Note H} (hc : note.call? = none) (hr : isRenewal note = false) :
      Entry m s [] (s.note note)
  | received {c : Counter} (h : c.isReceipt = true) : Entry m s [.received] (s.count c)
  /-- The consumer is told that there is no producer. -/
  | told (call : Delivery H) (h : call.kind = .inactive) :
      Entry m s [] ((s.count (.delivered call.kind)).note (.called call))
  /-- The consumer is given an update that came in. -/
  | given (call : Delivery H) (h : call.kind ≠ .inactive) :
      Entry m s [.received] ((s.count (.delivered call.kind)).note (.called call))
  | renewed (time : Nat) (e : Epoch) :
      Entry m s [] ((s.count .epochChanges).note (.heard time e true))
  | sent {c : Counter} {b : β} (h : c.isOutbound = true) (hb : m.carries s.bus c.volume b) :
      Entry m s [] { s.count c with bus := b }
  | handled (command : HandledCommand) :
      Entry m s [.handled command] (s.count (.requestsHandled command))

/-- Changes of a scene in a row, with all postings. -/
inductive Booked (m : Meter β) (s : Scene β H) : List Posting → Scene β H → Prop
  | refl : Booked m s [] s
  | entry {ps qs : List Posting} {s' s'' : Scene β H} (h : Booked m s ps s')
      (he : Entry m s' qs s'') : Booked m s (ps ++ qs) s''

variable {m : Meter β} {s s' s'' : Scene β H} {ps qs : List Posting}

theorem Entry.booked (h : Entry m s ps s') : Booked m s ps s' := .entry .refl h

theorem Booked.trans (h : Booked m s ps s') (h' : Booked m s' qs s'') :
    Booked m s (ps ++ qs) s'' := by
  induction h' with
  | refl => simpa using h
  | entry hb he ih =>
      rw [← List.append_assoc]
      exact ih.entry he

section Laws

@[simp] theorem metrics_count (c : Counter) (s : Scene β H) :
    (s.count c).metrics = s.metrics.bump c := rfl

@[simp] theorem metrics_note (n : Note H) (s : Scene β H) : (s.note n).metrics = s.metrics := rfl

@[simp] theorem calls_count (kind : DeliveryKind) (c : Counter) (s : Scene β H) :
    (s.count c).calls kind = s.calls kind := rfl

@[simp] theorem renewals_count (c : Counter) (s : Scene β H) :
    (s.count c).renewals = s.renewals := rfl

theorem deliveries_note (n : Note H) (s : Scene β H) :
    (s.note n).deliveries.toList = s.deliveries.toList ++ n.call?.toList := by
  unfold deliveries note
  cases hn : n.call? <;> simp [hn]

theorem calls_note (kind : DeliveryKind) (n : Note H) (s : Scene β H) :
    (s.note n).calls kind = s.calls kind + n.call?.toList.countP (fun c => c.kind = kind) := by
  rw [Scene.calls, deliveries_note, List.countP_append, Scene.calls]

theorem renewals_note (n : Note H) (s : Scene β H) :
    (s.note n).renewals = s.renewals + if isRenewal n then 1 else 0 := by
  simp [renewals, note, List.countP_singleton]

theorem Entry.inbound (h : Entry m s ps s') :
    s'.metrics.inbound = s.metrics.inbound + ps.count .received := by
  cases h with
  | moved h => rfl
  | timed now clock => rfl
  | aside n h => simp [Metrics.inbound_bumpBy, Counter.isInbound_of_isAside h]
  | noted hc hr => rfl
  | received h => simp [Metrics.inbound_bump, Counter.isInbound_of_isReceipt h]
  | told call h => simp [Metrics.inbound_bump, Counter.isInbound, h]
  | given call h => simp [Metrics.inbound_bump, Counter.isInbound, h]
  | renewed time e =>
      simp [Metrics.inbound_bump, Counter.isInbound, Counter.isReceipt]
  | sent h hb => simp [Metrics.inbound_bump, Counter.isInbound_of_isOutbound h]
  | handled command => simp [Metrics.inbound_bump, Counter.isInbound, Counter.isReceipt]

theorem Entry.handled_count (command : HandledCommand) (h : Entry m s ps s') :
    s'.metrics.count (.requestsHandled command) =
      s.metrics.count (.requestsHandled command) + ps.count (.handled command) := by
  cases h with
  | moved h => rfl
  | timed now clock => rfl
  | aside n h => exact s.metrics.count_bumpBy_of_class h rfl n
  | noted hc hr => rfl
  | received h => exact s.metrics.count_bumpBy_of_class h rfl 1
  | told call h => simp [Metrics.count_bump]
  | given call h => simp [Metrics.count_bump]
  | renewed time e => simp [Metrics.count_bump]
  | sent h hb => exact s.metrics.count_bumpBy_of_class h rfl 1
  | handled done =>
      by_cases hd : command = done
      · simp [hd]
      · simp [Metrics.count_bump, hd, Ne.symm hd]

theorem Entry.calls (kind : DeliveryKind) (h : Entry m s ps s') :
    s'.metrics.count (.delivered kind) + s.calls kind =
      s.metrics.count (.delivered kind) + s'.calls kind := by
  have hcalled (call : Delivery H) :
      ((s.count (.delivered call.kind)).note (.called call)).metrics.count (.delivered kind) +
          s.calls kind =
        s.metrics.count (.delivered kind) +
          ((s.count (.delivered call.kind)).note (.called call)).calls kind := by
    by_cases hk : kind = call.kind
    · simp [calls_note, Note.call?, hk]
      omega
    · simp [calls_note, Note.call?, Metrics.count_bump, hk, Ne.symm hk]
  cases h with
  | moved h => rfl
  | timed now clock => rfl
  | aside n h => exact congrArg (· + s.calls kind) (s.metrics.count_bumpBy_of_class h rfl n)
  | noted hc hr =>
      rw [calls_note, hc]
      rfl
  | received h => exact congrArg (· + s.calls kind) (s.metrics.count_bumpBy_of_class h rfl 1)
  | told call h => exact hcalled call
  | given call h => exact hcalled call
  | renewed time e =>
      simp [calls_note, Note.call?, Metrics.count_bump]
  | sent h hb => exact congrArg (· + s.calls kind) (s.metrics.count_bumpBy_of_class h rfl 1)
  | handled command =>
      exact congrArg (· + s.calls kind) (s.metrics.count_bumpBy_of_ne (by simp) 1)

theorem Entry.renewals (h : Entry m s ps s') :
    s'.metrics.count .epochChanges + s.renewals =
      s.metrics.count .epochChanges + s'.renewals := by
  cases h with
  | moved h => rfl
  | timed now clock => rfl
  | aside n h => exact congrArg (· + s.renewals) (s.metrics.count_bumpBy_of_class h rfl n)
  | noted hc hr =>
      rw [renewals_note, hr]
      rfl
  | received h => exact congrArg (· + s.renewals) (s.metrics.count_bumpBy_of_class h rfl 1)
  | told call h => simp [renewals_note, isRenewal, Metrics.count_bump]
  | given call h => simp [renewals_note, isRenewal, Metrics.count_bump]
  | renewed time e =>
      simp [renewals_note, isRenewal]
      omega
  | sent h hb => exact congrArg (· + s.renewals) (s.metrics.count_bumpBy_of_class h rfl 1)
  | handled command =>
      exact congrArg (· + s.renewals) (s.metrics.count_bumpBy_of_ne (by simp) 1)

theorem Entry.outbound (h : Entry m s ps s') :
    ∃ t, m.carries s.bus t s'.bus ∧ s'.metrics.outbound = s.metrics.outbound + t := by
  have hsame {c : Counter} (hc : c.volume = 0) :
      ∃ t, m.carries s.bus t s.bus ∧ (s.metrics.bump c).outbound = s.metrics.outbound + t :=
    ⟨0, m.none s.bus, by rw [Metrics.outbound_bump, hc]⟩
  cases h with
  | moved h => exact ⟨0, h, rfl⟩
  | timed now clock => exact ⟨0, m.none s.bus, rfl⟩
  | aside n h => exact ⟨0, m.none s.bus, s.metrics.outbound_bumpBy_of_isAside h n⟩
  | noted hc hr => exact ⟨0, m.none s.bus, rfl⟩
  | received h => exact hsame (Counter.volume_of_isReceipt h)
  | told call h => exact hsame rfl
  | given call h => exact hsame rfl
  | renewed time e => exact hsame rfl
  | @sent c b h hb => exact ⟨c.volume, hb, s.metrics.outbound_bump c⟩
  | handled command => exact hsame rfl

theorem Booked.inbound (h : Booked m s ps s') :
    s'.metrics.inbound = s.metrics.inbound + ps.count .received := by
  induction h with
  | refl => rfl
  | entry hb he ih => rw [he.inbound, ih, List.count_append, Nat.add_assoc]

theorem Booked.handled_count (command : HandledCommand) (h : Booked m s ps s') :
    s'.metrics.count (.requestsHandled command) =
      s.metrics.count (.requestsHandled command) + ps.count (.handled command) := by
  induction h with
  | refl => rfl
  | entry hb he ih => rw [he.handled_count command, ih, List.count_append, Nat.add_assoc]

theorem Booked.calls (kind : DeliveryKind) (h : Booked m s ps s') :
    s'.metrics.count (.delivered kind) + s.calls kind =
      s.metrics.count (.delivered kind) + s'.calls kind := by
  induction h with
  | refl => rfl
  | entry hb he ih =>
      have hstep := he.calls kind
      omega

theorem length_eq_countP_kinds (cs : List (Delivery H)) :
    cs.length = cs.countP (fun c => c.kind = .snapshot) + cs.countP (fun c => c.kind = .delta) +
      cs.countP (fun c => c.kind = .inactive) := by
  induction cs with
  | nil => rfl
  | cons c cs ih =>
      simp only [List.length_cons, List.countP_cons, ih]
      cases c.kind <;> simp <;> omega

/-- The calls of the consumer are counted by kind. -/
theorem Booked.delivered (h : Booked m s ps s') :
    s'.metrics.delivered + s.deliveries.size = s.metrics.delivered + s'.deliveries.size := by
  have hsize (t : Scene β H) :
      t.deliveries.size = t.calls .snapshot + t.calls .delta + t.calls .inactive := by
    rw [← Array.length_toList]
    exact length_eq_countP_kinds t.deliveries.toList
  have hsnapshot := h.calls .snapshot
  have hdelta := h.calls .delta
  have hinactive := h.calls .inactive
  rw [hsize, hsize, Metrics.delivered, Metrics.delivered]
  omega

theorem Booked.renewals (h : Booked m s ps s') :
    s'.metrics.count .epochChanges + s.renewals =
      s.metrics.count .epochChanges + s'.renewals := by
  induction h with
  | refl => rfl
  | entry hb he ih =>
      have hstep := he.renewals
      omega

/-- Outbound payloads are counted as the bus carries them. -/
theorem Booked.outbound (h : Booked m s ps s') :
    ∃ t, m.carries s.bus t s'.bus ∧ s'.metrics.outbound = s.metrics.outbound + t := by
  induction h with
  | refl => exact ⟨0, m.none s.bus, rfl⟩
  | entry hb he ih =>
      obtain ⟨t, ht, hcount⟩ := ih
      obtain ⟨t', ht', hcount'⟩ := he.outbound
      exact ⟨t + t', m.more ht ht', by rw [hcount', hcount, Volume.add_assoc]⟩

end Laws

end Scene

namespace Outbox

open Scene

variable {β H : Type} {m : Meter β} {link : Link β} {ch : Channel} {write : Payload → Payload}
  {o : Outbox} {s : Scene β H}

theorem booked_noteGrowth (before after : Pool) (s : Scene β H) :
    Booked m s [] { s with metrics := s.metrics.noteGrowth before after } := by
  unfold Metrics.noteGrowth
  split
  · exact (Entry.aside _ rfl).booked
  · exact .refl

theorem booked_announce (o : Outbox) (s : Scene β H) : Booked m s [] (o.announce s) :=
  (Entry.aside o.requests.allocated rfl).booked.entry (Entry.aside o.updates.allocated rfl)

theorem carries_transmit (hl : m.Reads link) :
    m.carries s.bus (.ofSend ch (transmit link ch write o s).1)
      (transmit link ch write o s).2.2.bus :=
  hl.send s.now ch (write (o.pool ch).acquire.1.body) s.bus

/-- A payload is counted by a counter that stands for it. -/
theorem booked_counted (hl : m.Reads link) {c : Counter} (h : c.isOutbound = true)
    (hc : c.volume = .ofSend ch (transmit link ch write o s).1) :
    Booked m s [] ((transmit link ch write o s).2.2.count c) :=
  (booked_noteGrowth _ _ s).entry (.sent h (hc ▸ carries_transmit hl))

/-- One that no counter stands for is not counted. -/
theorem booked_uncounted (hl : m.Reads link)
    (h : Volume.ofSend ch (transmit link ch write o s).1 = 0) :
    Booked m s [] (transmit link ch write o s).2.2 :=
  (booked_noteGrowth _ _ s).entry (.moved (h ▸ carries_transmit hl))

end Outbox

end QuoteBridge
