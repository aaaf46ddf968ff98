import Mathlib.Data.List.Infix
import QuoteBridge.Proofs.Bus.Traffic

/-!
# What a broker delivers

The payloads that the listeners of an endpoint receive, against those that were sent to it.

**Lists.**  `accepted` has the payloads that were sent on a channel with success, `offered` those of
them that came while a session of the endpoint was open, `taken` those that its forwarders took out
and `received` those of them that a listener heard.

**Room.**  A session that never has more than `capacity` payloads outstanding loses none.

**Results.**
* `Carries.effect`: what an open session holds is what was sent and not yet taken, short of what
  was pushed out.
* `Traced.received_sublist`: over all sessions, what is received was offered, in that order.
* `delivered_in_order`: both for every run, with when a send succeeds and what it counts.
-/

namespace QuoteBridge
namespace Traffic

variable {κ : Type}

section Lists

/-- The payload that an entry put on a channel. -/
def Event.accepted? (ch : Channel) : Event κ → Option Payload
  | .sent _ ch' p (.ok ()) => if ch' = ch then some p else none
  | _ => none

/-- The payloads that were sent on a channel with success. -/
def accepted (ch : Channel) (log : List (Event κ)) : List Payload :=
  log.filterMap (Event.accepted? ch)

@[simp] theorem accepted_append (ch : Channel) (log log' : List (Event κ)) :
    accepted ch (log ++ log') = accepted ch log ++ accepted ch log' :=
  List.filterMap_append

@[simp] theorem accepted_sent (k : κ) (ch : Channel) (p : Payload) :
    accepted ch [Event.sent k ch p (.ok ())] = [p] := by
  simp [accepted, Event.accepted?]

variable [DecidableEq κ]

/-- The payload that an entry took out of the session of an endpoint. -/
def Event.taken? (k : κ) : Event κ → Option Payload
  | .handed k' (.payload p) _ => if k' = k then some p else none
  | _ => none

/-- The payload that an entry brought to a listener of an endpoint. -/
def Event.received? (k : κ) : Event κ → Option Payload
  | .handed k' (.payload p) true => if k' = k then some p else none
  | _ => none

/-- The payloads that the forwarders of an endpoint took out of its sessions. -/
def taken (k : κ) (log : List (Event κ)) : List Payload := log.filterMap (Event.taken? k)

/-- The payloads that the listeners of an endpoint received. -/
def received (k : κ) (log : List (Event κ)) : List Payload := log.filterMap (Event.received? k)

/-- The payloads sent on a channel while a session of an endpoint was open. -/
def offered (k : κ) (ch : Channel) : Bool → List (Event κ) → List Payload
  | _, [] => []
  | isOpen, x :: log =>
      (if isOpen then (x.accepted? ch).toList else []) ++ offered k ch (x.openAfter k isOpen) log

@[simp] theorem taken_append (k : κ) (log log' : List (Event κ)) :
    taken k (log ++ log') = taken k log ++ taken k log' :=
  List.filterMap_append

@[simp] theorem received_append (k : κ) (log log' : List (Event κ)) :
    received k (log ++ log') = received k log ++ received k log' :=
  List.filterMap_append

theorem offered_append (k : κ) (ch : Channel) (log log' : List (Event κ)) (o : Bool) :
    offered k ch o (log ++ log') =
      offered k ch o log ++ offered k ch (log.foldl (Event.openAfter k) o) log' := by
  induction log generalizing o with
  | nil => rfl
  | cons x log ih => simp [offered, ih]

/-- An entry that does not concern an endpoint is in none of its lists. -/
theorem lists_of_aside {k : κ} {ch : Channel} {x : Event κ} (hx : x.concerns k ch = false) :
    accepted ch [x] = [] ∧ taken k [x] = [] ∧ received k [x] = [] := by
  cases x with
  | sent k' ch' p answer =>
      cases answer with
      | ok u =>
          have hne : ch' ≠ ch := by simpa [Event.concerns] using hx
          simp [accepted, taken, received, Event.accepted?, Event.taken?, Event.received?, hne]
      | error f => exact ⟨rfl, rfl, rfl⟩
  | handed k' what heard =>
      have hne : k' ≠ k := by simpa [Event.concerns] using hx
      cases what with
      | payload p =>
          cases heard <;>
            simp [accepted, taken, received, Event.accepted?, Event.taken?, Event.received?, hne]
      | lost => exact ⟨rfl, rfl, rfl⟩
  | _ => exact ⟨rfl, rfl, rfl⟩

@[simp] theorem taken_handed (k : κ) (p : Payload) (heard : Bool) :
    taken k [.handed k (.payload p) heard] = [p] := by
  simp [taken, Event.taken?]

@[simp] theorem received_handed (k : κ) (p : Payload) (heard : Bool) :
    received k [.handed k (.payload p) heard] = if heard then [p] else [] := by
  cases heard <;> simp [received, Event.received?]

end Lists

section OneSession

variable [DecidableEq κ] {k : κ} {ch : Channel} {capacity : Nat}

/-- At no time more payloads were outstanding than a session has room for. -/
def Fits (k : κ) (ch : Channel) (capacity : Nat) (span : List (Event κ)) : Prop :=
  ∀ part ∈ span.inits, (accepted ch part).length ≤ (taken k part).length + capacity

instance (span : List (Event κ)) : Decidable (Fits k ch capacity span) :=
  inferInstanceAs
    (Decidable (∀ part ∈ span.inits, (accepted ch part).length ≤ (taken k part).length + capacity))

theorem Fits.of_append {span more : List (Event κ)} (h : Fits k ch capacity (span ++ more)) :
    Fits k ch capacity span := by
  intro part hpart
  have hprefix : part <+: span ++ more :=
    ((List.mem_inits _ _).mp hpart).trans (List.prefix_append span more)
  exact h part ((List.mem_inits _ _).mpr hprefix)

theorem Fits.length_le {span : List (Event κ)} (h : Fits k ch capacity span) :
    (accepted ch span).length ≤ (taken k span).length + capacity :=
  h span ((List.mem_inits _ _).mpr (List.prefix_refl span))

/-- What a session and the log since its opening have to do with each other. -/
structure Carries (k : κ) (ch : Channel) (capacity : Nat) (gone : List Nat) (l : Option Nat)
    (s : Session) (span : List (Event κ)) : Prop where
  listener : s.listener = l
  held : (taken k span ++ s.backlog).Sublist (accepted ch span)
  complete : Fits k ch capacity span → accepted ch span = taken k span ++ s.backlog
  heard : received k span <+: taken k span
  all : hears gone l = true → received k span = taken k span

variable {gone : List Nat} {l : Option Nat} {s : Session} {span : List (Event κ)}

theorem Carries.opened (n : Nat) :
    Carries k ch capacity gone l ⟨l, [], n⟩ ([] : List (Event κ)) :=
  ⟨rfl, List.Sublist.refl [], fun _ => rfl, List.prefix_refl [], fun _ => rfl⟩

/-- An entry that is in none of the lists changes nothing. -/
theorem Carries.aside {x : Event κ} (h : Carries k ch capacity gone l s span)
    (hx : accepted ch [x] = [] ∧ taken k [x] = [] ∧ received k [x] = []) :
    Carries k ch capacity gone l s (span ++ [x]) := by
  obtain ⟨ha, ht, hr⟩ := hx
  refine ⟨h.listener, ?_, fun hf => ?_, ?_, fun hl => ?_⟩
  · simpa [ha, ht] using h.held
  · simpa [ha, ht] using h.complete hf.of_append
  · simpa [ht, hr] using h.heard
  · simpa [ht, hr] using h.all hl

/-- A payload goes behind the others, or pushes the oldest ones out. -/
theorem Carries.push (h : Carries k ch capacity gone l s span) (k' : κ) (p : Payload) :
    Carries k ch capacity gone l (s.push capacity p) (span ++ [.sent k' ch p (.ok ())]) := by
  have ht : taken k (span ++ [.sent k' ch p (.ok ())]) = taken k span := by
    rw [taken_append]
    exact List.append_nil _
  have hr : received k (span ++ [.sent k' ch p (.ok ())]) = received k span := by
    rw [received_append]
    exact List.append_nil _
  have ha : accepted ch (span ++ [.sent k' ch p (.ok ())]) = accepted ch span ++ [p] := by
    rw [accepted_append, accepted_sent]
  refine ⟨h.listener, ?_, fun hf => ?_, ?_, fun hl => ?_⟩
  · rw [ht, ha]
    have hdrop : (s.push capacity p).backlog.Sublist (s.backlog ++ [p]) := List.drop_sublist _ _
    exact (hdrop.append_left (taken k span)).trans
      (by simpa using h.held.append (List.Sublist.refl [p]))
  · have hc := h.complete hf.of_append
    have hroom : s.backlog.length < capacity := by
      have hlen := hf.length_le
      rw [ha, ht, hc] at hlen
      simp only [List.length_append, List.length_singleton] at hlen
      omega
    rw [ht, ha, hc, Session.backlog_push_of_lt hroom, List.append_assoc]
  · rw [ht, hr]
    exact h.heard
  · rw [ht, hr]
    exact h.all hl

/-- The oldest payload is handed to the listener. -/
theorem Carries.take {p : Payload} {rest : List Payload}
    (h : Carries k ch capacity gone l s span) (hb : s.backlog = p :: rest) :
    Carries k ch capacity gone l { s with backlog := rest }
      (span ++ [.handed k (.payload p) (hears gone s.listener)]) := by
  have ha : accepted ch (span ++ [.handed k (.payload p) (hears gone s.listener)]) =
      accepted ch span := by
    rw [accepted_append]
    exact List.append_nil _
  refine ⟨h.listener, ?_, fun hf => ?_, ?_, fun hl => ?_⟩
  · have hheld := h.held
    rw [hb] at hheld
    simpa [ha] using hheld
  · have hc := h.complete hf.of_append
    rw [hb] at hc
    simpa [ha] using hc
  · rw [h.listener]
    cases hheard : hears gone l with
    | true => simp [h.all hheard]
    | false => simpa using h.heard.trans (List.prefix_append _ _)
  · rw [h.listener, hl]
    simp [h.all hl]

/-- What an open session holds, and what it has handed on, through every effect. -/
theorem Carries.effect {v v' : View} {es : List (Event κ)} (heff : Effect k ch capacity v es v')
    (hes : ∀ x ∈ es, x.ends k = false) (hs : v.session = some s)
    (h : Carries k ch capacity v.gone l s span) :
    ∃ s', v'.session = some s' ∧ Carries k ch capacity v'.gone l s' (span ++ es) := by
  cases heff with
  | quiet => exact ⟨s, hs, by simpa using h⟩
  | dismissed n =>
      refine ⟨s, hs, ?_⟩
      rw [List.append_nil]
      exact { h with all := fun hl => h.all (hears_of_subset (List.subset_cons_self n v.gone) hl) }
  | aside hx => exact ⟨s, hs, h.aside (lists_of_aside hx)⟩
  | down => exact ⟨s, hs, h.aside ⟨rfl, rfl, rfl⟩⟩
  | opened l' => simp [Event.ends] at hes
  | closed => simp [Event.ends] at hes
  | accepted k' p => exact ⟨s.push capacity p, by rw [hs]; rfl, h.push k' p⟩
  | @took s₁ p rest hs₁ hb =>
      obtain rfl : s₁ = s := Option.some.inj (hs₁.symm.trans hs)
      exact ⟨_, rfl, h.take hb⟩
  | lost hs₁ ho => simp [Event.ends] at hes

/-- An open session carries what was sent since its opening. -/
theorem Traced.carries {log before : List (Event κ)} {v : View} (h : Traced k ch capacity log v)
    (hlog : log = before ++ .opened k l :: span) (hspan : ∀ x ∈ span, x.ends k = false) :
    ∃ s, v.session = some s ∧ Carries k ch capacity v.gone l s span :=
  h.live_induction (P := fun v l s span => Carries k ch capacity v.gone l s span)
    (fun v _ _ => Carries.opened v.outages) Carries.effect hlog hspan

end OneSession

section AllSessions

variable [DecidableEq κ] {k : κ} {ch : Channel} {capacity : Nat} {log : List (Event κ)} {v : View}

/-- The payloads that wait for the listener. -/
def View.backlog (v : View) : List Payload := ((v.session).map (·.backlog)).getD []

/-- Over all sessions of an endpoint: what its listeners have received, and what waits for them, was
sent while a session was open, in that order and no payload twice. -/
theorem Traced.received_sublist (h : Traced k ch capacity log v) :
    (received k log ++ v.backlog).Sublist (offered k ch false log) := by
  induction h with
  | start => exact List.Sublist.refl []
  | @step log es v v' h heff ih =>
      have hkeep : ∀ {waits more : List Payload}, waits.Sublist v.backlog →
          (received k log ++ [] ++ waits).Sublist (offered k ch false log ++ more) := by
        intro waits more hw
        rw [List.append_nil]
        exact ((hw.append_left (received k log)).trans ih).trans (List.sublist_append_left _ _)
      rw [offered_append, ← isOpen, ← h.isSome_session, received_append]
      cases heff with
      | quiet => exact hkeep (List.Sublist.refl v.backlog)
      | dismissed n => exact hkeep (List.Sublist.refl v.backlog)
      | @aside x hx =>
          obtain ⟨-, -, hr⟩ := lists_of_aside hx
          rw [hr]
          exact hkeep (List.Sublist.refl v.backlog)
      | down => exact hkeep (List.Sublist.refl v.backlog)
      | opened l => exact hkeep (List.nil_sublist _)
      | closed => exact hkeep (List.nil_sublist _)
      | accepted k' p =>
          cases hs : v.session with
          | none => exact hkeep (List.nil_sublist _)
          | some s =>
              have hpush : (s.push capacity p).backlog.Sublist (s.backlog ++ [p]) :=
                List.drop_sublist _ _
              have hwait : (received k log ++ s.backlog).Sublist (offered k ch false log) := by
                simpa [View.backlog, hs] using ih
              have hall := (hpush.append_left (received k log)).trans
                (by simpa using hwait.append (List.Sublist.refl [p]))
              have hr : received k [.sent k' ch p (.ok ())] = [] := rfl
              simpa [offered, Event.accepted?, View.backlog, hr] using hall
      | @took s p rest hs hb =>
          have hwait : v.backlog = p :: rest := by simp [View.backlog, hs, hb]
          cases hheard : hears v.gone s.listener with
          | true =>
              rw [hwait] at ih
              simpa [offered, Event.accepted?, View.backlog, hs] using ih
          | false =>
              rw [received_handed]
              refine hkeep ?_
              rw [hwait]
              exact List.sublist_cons_self p rest
      | lost hs ho => exact hkeep (List.nil_sublist _)

end AllSessions

section Sends

variable [DecidableEq κ]

/-- Whether an act is a send that succeeds. -/
def Act.succeeds (t : Traffic κ) : Act κ → Bool
  | .send k ch p => (t.broker.send k ch p).1.isOk
  | _ => false

theorem send_ok_iff {b : Broker κ} {k : κ} {e : Endpoint} (he : b.endpoint? k = some e)
    (ch : Channel) (p : Payload) :
    (b.send k ch p).1 = .ok () ↔
      ch = e.role.outbound ∧ b.isConnected k = true ∧ b.available = true := by
  have hconnected : b.isConnected k = e.session.isSome := by
    simp [Broker.isConnected_eq, Broker.session?, he]
  rw [hconnected]
  by_cases hc : ch = e.role.outbound
  · by_cases hs : e.session.isSome = true
    · by_cases ha : b.available = true
      · simp [Broker.send, Broker.route, he, hs, ha, ← hc]
      · simp [Broker.send, Broker.route, he, hs, ha, ← hc]
    · simp [Broker.send, he, hs, ← hc]
  · simp [Broker.send, he, hc]

/-- What a broker counts are the sends that succeed. -/
theorem routed_perform (act : Act κ) (t : Traffic κ) :
    (perform act t).broker.routed = t.broker.routed + if act.succeeds t then 1 else 0 := by
  cases act with
  | connect k =>
      rcases Broker.connect_cases k t.broker with ⟨-, -, -, hb⟩ | ⟨-, hb⟩ <;>
        simp [perform, brokerAfter, Act.succeeds, hb, Broker.modifyEndpoint]
  | send k ch p =>
      rcases Broker.send_cases k ch p t.broker with ⟨hok, ha, -, hb⟩ | ⟨⟨f, hf⟩, hb⟩
      · simp [perform, brokerAfter, Act.succeeds, hok, hb, Broker.route, ha, Except.isOk,
          Except.toBool]
      · simp [perform, brokerAfter, Act.succeeds, hf, hb, Except.isOk, Except.toBool]
  | forward k source =>
      obtain hb | ⟨s, hb⟩ := brokerAfter_forward k source t.broker <;>
        exact (congrArg Broker.routed hb).trans rfl
  | _ => rfl

end Sends

section Runs

variable [DecidableEq κ]

/-- For every run of endpoints at a broker that has just been made, with calls, outages and turns of
the forwarders in any order.

Over all sessions of an endpoint its listeners receive payloads that were sent on its inbound channel
while a session was open, in that order and none twice.  Within one session they receive such that
were sent since it was opened; as long as there was room for those outstanding nothing is left out,
and what a listener that is there has not received yet is waiting for it.  A send succeeds on the
outbound channel, through an open session and at an available broker; only such a send is counted,
and any other changes nothing. -/
theorem delivered_in_order (n : Nat) (places : List (Place κ)) (acts : List (Act κ)) {k : κ}
    {e : Endpoint} (he : (run acts (start n places)).broker.endpoint? k = some e) :
    let t := run acts (start n places)
    let ch := e.role.inbound
    (received k t.log).Sublist (offered k ch false t.log) ∧
      (∀ before l span rest, t.log = before ++ .opened k l :: (span ++ rest) →
        (∀ x ∈ span, x.ends k = false) →
          (received k span).Sublist (accepted ch span) ∧
          (Fits k ch t.broker.capacity span → received k span <+: accepted ch span ∧
            (rest = [] → hears t.gone l = true →
              accepted ch span = received k span ++ t.broker.backlog k))) ∧
      (∀ ch' p, (t.broker.send k ch' p).1 = .ok () ↔
        ch' = e.role.outbound ∧ t.broker.isConnected k = true ∧ t.broker.available = true) ∧
      (∀ act, (perform act t).broker.routed =
        t.broker.routed + if act.succeeds t then 1 else 0) ∧
      ∀ k' ch' p f, (t.broker.send k' ch' p).1 = .error f →
        (perform (.send k' ch' p) t).broker = t.broker := by
  intro t ch
  have htraced : Traced k ch t.broker.capacity t.log (t.view k) := traced_run he
  refine ⟨?_, ?_, send_ok_iff he, fun act => routed_perform act t, ?_⟩
  · exact (List.sublist_append_left _ _).trans htraced.received_sublist
  · intro before l span rest hlog hspan
    have hsplit : Traced k ch t.broker.capacity ((before ++ .opened k l :: span) ++ rest)
        (t.view k) := by
      simpa [hlog] using htraced
    obtain ⟨v, hv, -⟩ := hsplit.exists_of_append
    obtain ⟨s, -, hcarries⟩ := hv.carries rfl hspan
    have htaken : (taken k span).Sublist (accepted ch span) :=
      (List.sublist_append_left _ _).trans hcarries.held
    refine ⟨hcarries.heard.sublist.trans htaken, fun hfits => ⟨?_, fun hrest hl => ?_⟩⟩
    · rw [hcarries.complete hfits]
      exact hcarries.heard.trans (List.prefix_append _ _)
    · subst hrest
      rw [List.append_nil] at hlog
      obtain ⟨s, hs, hcarries⟩ := htraced.carries hlog hspan
      rw [hcarries.complete hfits, hcarries.all hl, Broker.backlog_of_session? hs]
  · intro k' ch' p f hf
    rcases Broker.send_cases k' ch' p t.broker with ⟨hok, -⟩ | ⟨-, hb⟩
    · rw [hok] at hf
      cases hf
    · exact hb

end Runs

section Demo

/-- A payload of one octet. -/
def octet (x : UInt8) : Payload := ⟨#[x]⟩

/-- The generator sends to the first adapter, which falls behind, closes its session with a payload
in it, misses the next one and opens another session. -/
def demoDeliveries : List (Act Nat) :=
  [.declare "q", .declare "t", .listen 1 7, .connect 0, .connect 1,
    .send 0 .updates (octet 1), .send 0 .updates (octet 2), .send 0 .updates (octet 3),
    .forward 1 .payloads, .reset 1, .send 0 .updates (octet 4), .connect 1,
    .send 0 .updates (octet 5), .send 0 .updates (octet 6), .forward 1 .payloads]

/-- The run of the demonstration, with two payloads of room. -/
def demoDelivered : Traffic Nat := run demoDeliveries (start 2 demoPlaces)

/-- The demonstration: two payloads are heard, the last one of them without a gap behind the second
opening, and one waits. -/
theorem delivered_in_order_demo :
    received 1 demoDelivered.log = [octet 2, octet 5] ∧
      [octet 2, octet 5].Sublist [octet 1, octet 2, octet 3, octet 5, octet 6] ∧
      [octet 5, octet 6] = [octet 5] ++ demoDelivered.broker.backlog 1 ∧
      (demoDelivered.broker.send 0 .updates (octet 7)).1 = .ok () ∧
      (perform (.send 0 .updates (octet 7)) demoDelivered).broker.routed = 7 := by
  have he : demoDelivered.broker.endpoint? 1 =
      some ⟨.adapter, "q", "t", some 7, some ⟨some 7, [octet 6], 0⟩⟩ := rfl
  have he₀ : demoDelivered.broker.endpoint? 0 =
      some ⟨.generator, "q", "t", none, some ⟨none, [], 0⟩⟩ := rfl
  obtain ⟨hall, hone, -⟩ := delivered_in_order 2 demoPlaces demoDeliveries he
  obtain ⟨-, -, hsend, hrouted, -⟩ := delivered_in_order 2 demoPlaces demoDeliveries he₀
  have hlog : demoDelivered.log = (demoDelivered.log.take 8) ++ .opened 1 (some 7) ::
      (demoDelivered.log.drop 9 ++ []) := rfl
  obtain ⟨-, hfits⟩ := hone _ _ _ _ hlog (by decide)
  obtain ⟨-, hwaits⟩ := hfits (by decide)
  exact ⟨rfl, hall, hwaits rfl rfl, (hsend .updates (octet 7)).mpr (by decide),
    hrouted (.send 0 .updates (octet 7))⟩

end Demo

end Traffic
end QuoteBridge
