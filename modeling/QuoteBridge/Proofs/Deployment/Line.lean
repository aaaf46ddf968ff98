import QuoteBridge.Deployment
import QuoteBridge.Proofs.Bus.Session

/-!
# The line between two parties

A broker that joins an adapter and one generator, and nobody else.  Each of the two sends on the
channel that the other one listens to.

**Results.**
* `Joins.session?_send_peer`: without lag a payload that is sent goes behind the backlog of the
  other party.
* `Joins.session?_sendAll`, `Joins.backlog_sendAll`: the same for payloads in a row.
* `Gives.payload`, `Gives.lost`: what a party's session gives.
* `Joins.gives_of_next?`: what the broker hands out, a session gives.
-/

namespace QuoteBridge

/-- The side that a party is on. -/
def Party.role : Party → Role
  | .adapter => .adapter
  | .generator _ => .generator

/-- The other one of an adapter and the generator of a name. -/
def Party.peer (name : String) : Party → Party
  | .adapter => .generator name
  | .generator _ => .adapter

namespace Broker

/-- The broker joins an adapter and the generator of a name, whichever came first. -/
def Joins (name : String) (b : Broker Party) : Prop :=
  b.roster.map (fun e => (e.1, e.2.role)) =
      [(.adapter, .adapter), (.generator name, .generator)] ∨
    b.roster.map (fun e => (e.1, e.2.role)) =
      [(.generator name, .generator), (.adapter, .adapter)]

variable {name : String} {b : Broker Party} {p : Party}

/-- The two parties of a line. -/
def IsOn (name : String) (p : Party) : Prop := p = .adapter ∨ p = .generator name

theorem IsOn.adapter : IsOn name .adapter := Or.inl rfl

theorem IsOn.generator : IsOn name (.generator name) := Or.inr rfl

theorem IsOn.peer (h : IsOn name p) : IsOn name (p.peer name) := by
  rcases h with rfl | rfl
  · exact IsOn.generator
  · exact IsOn.adapter

theorem IsOn.eq_or_eq_peer {q : Party} (hp : IsOn name p) (hq : IsOn name q) :
    q = p ∨ q = p.peer name := by
  rcases hp with rfl | rfl <;> rcases hq with rfl | rfl <;> simp [Party.peer]

theorem IsOn.inbound_peer (h : IsOn name p) : (p.peer name).role.inbound = p.role.outbound := by
  rcases h with rfl | rfl <;> rfl

/-- What a party's session may give it, and the broker behind it, whichever party's turn it is and
whichever source its forwarder turns to. -/
def Gives (b : Broker Party) (p : Party) (i : Inbound) (b' : Broker Party) : Prop :=
  ∃ s source s', b.session? p = some s ∧ s.take? b.outages source = some (i, s') ∧
    b' = b.setSession p s'

/-- A payload that a session gives is its oldest one. -/
theorem Gives.payload {x : Payload} {b' : Broker Party} (h : b.Gives p (.payload x) b') :
    ∃ s rest, b.session? p = some s ∧ s.backlog = x :: rest ∧
      b' = b.setSession p (some { s with backlog := rest }) := by
  obtain ⟨s, source, s', hs, hn, rfl⟩ := h
  cases source with
  | payloads =>
      unfold Session.take? at hn
      cases hb : s.backlog with
      | cons y rest =>
          rw [hb] at hn
          cases hn
          exact ⟨s, rest, hs, hb, rfl⟩
      | nil =>
          rw [hb] at hn
          cases hn
  | outages => by_cases ho : s.outagesSeen < b.outages <;> simp [Session.take?, ho] at hn

/-- A session that is told of its loss missed an outage. -/
theorem Gives.lost {b' : Broker Party} (h : b.Gives p .lost b') :
    ∃ s, b.session? p = some s ∧ s.outagesSeen < b.outages ∧ b' = b.setSession p none := by
  obtain ⟨s, source, s', hs, hn, rfl⟩ := h
  cases source with
  | payloads =>
      unfold Session.take? at hn
      cases hb : s.backlog <;> simp [hb] at hn
  | outages =>
      by_cases ho : s.outagesSeen < b.outages
      · simp only [Session.take?, ho, if_true, Option.some.injEq, Prod.mk.injEq] at hn
        exact ⟨s, hs, ho, by rw [← hn.2]⟩
      · simp [Session.take?, ho] at hn

namespace Joins

theorem of_roster_eq {b' : Broker Party} (h : b.Joins name) (hr : b'.roster = b.roster) :
    b'.Joins name := by
  unfold Joins
  rw [hr]
  exact h

theorem nodup (h : b.Joins name) : (b.roster.map (·.1)).Nodup := by
  have hkeys : b.roster.map (·.1) =
      (b.roster.map (fun e => (e.1, e.2.role))).map (·.1) := by
    simp [Function.comp_def]
  rw [hkeys]
  rcases h with h | h <;> simp [h]

/-- The two endpoints stand in one order or the other. -/
theorem endpoints_cases (h : b.Joins name) :
    ∃ ea eg, ea.role = .adapter ∧ eg.role = .generator ∧
      (b.endpoints = [(.adapter, ea), (.generator name, eg)] ∨
        b.endpoints = [(.generator name, eg), (.adapter, ea)]) := by
  have hroles : b.roster.map (fun e => (e.1, e.2.role)) =
      b.endpoints.map (fun e => (e.1, e.2.role)) := by
    simp [roster, Endpoint.vacant, Function.comp_def]
  unfold Joins at h
  rw [hroles] at h
  rcases hb : b.endpoints with _ | ⟨⟨k₁, e₁⟩, _ | ⟨⟨k₂, e₂⟩, _ | ⟨e₃, es⟩⟩⟩ <;> rw [hb] at h
  · simp at h
  · simp at h
  · simp only [List.map_cons, List.map_nil, List.cons.injEq, Prod.mk.injEq, and_true] at h
    rcases h with ⟨⟨rfl, h₁⟩, rfl, h₂⟩ | ⟨⟨rfl, h₁⟩, rfl, h₂⟩
    · exact ⟨e₁, e₂, h₁, h₂, Or.inl rfl⟩
    · exact ⟨e₂, e₁, h₂, h₁, Or.inr rfl⟩
  · simp at h

/-- Both parties have an endpoint on their own side. -/
theorem endpoint? (h : b.Joins name) (hp : IsOn name p) :
    ∃ e, b.endpoint? p = some e ∧ e.role = p.role := by
  obtain ⟨ea, eg, ha, hg, hb | hb⟩ := h.endpoints_cases
  · rcases hp with rfl | rfl
    · exact ⟨ea, by simp [Broker.endpoint?, hb], ha⟩
    · exact ⟨eg, by simp [Broker.endpoint?, hb], hg⟩
  · rcases hp with rfl | rfl
    · exact ⟨ea, by simp [Broker.endpoint?, hb], ha⟩
    · exact ⟨eg, by simp [Broker.endpoint?, hb], hg⟩

/-- Only the two parties have sessions. -/
theorem isOn_of_session? (h : b.Joins name) {s : Session} (hs : b.session? p = some s) :
    IsOn name p := by
  obtain ⟨e, he, -⟩ := endpoint?_isSome_of_session? hs
  obtain ⟨ea, eg, -, -, hb | hb⟩ := h.endpoints_cases
  all_goals
    obtain ⟨x, hx, -⟩ := Option.map_eq_some_iff.mp he
    have hk : x.1 = p := by simpa using List.find?_some hx
    have hm := List.mem_of_find?_eq_some hx
    rw [hb] at hm
    subst hk
    rcases List.mem_cons.mp hm with rfl | hm
    · simp [IsOn]
    · rw [List.mem_singleton.mp hm]
      simp [IsOn]

/-- A party's own session does not change when it sends. -/
theorem session?_send_self (h : b.Joins name) (hp : IsOn name p) {x : Payload}
    (hl : (b.send p p.role.outbound x).2.lagged = b.lagged) :
    (b.send p p.role.outbound x).2.session? p = b.session? p := by
  obtain ⟨e, he, hr⟩ := h.endpoint? hp
  rcases send_cases p p.role.outbound x b with ⟨-, ha, -, hb⟩ | ⟨-, hb⟩
  · rw [hb] at hl ⊢
    have hne : e.role.inbound ≠ p.role.outbound := hr ▸ (Role.outbound_ne_inbound _).symm
    rw [session?_route ha hl he, if_neg hne, session?, he, Option.bind_some]
  · rw [hb]

/-- Without lag a payload that is sent goes behind the backlog of the other party. -/
theorem session?_send_peer (h : b.Joins name) (hp : IsOn name p) {x : Payload}
    (hl : (b.send p p.role.outbound x).2.lagged = b.lagged) :
    (b.send p p.role.outbound x).2.session? (p.peer name) =
      if b.available = true ∧ (b.session? p).isSome = true then
        (b.session? (p.peer name)).map (fun s => { s with backlog := s.backlog ++ [x] })
      else b.session? (p.peer name) := by
  obtain ⟨e, he, hr⟩ := h.endpoint? hp
  obtain ⟨e', he', hr'⟩ := h.endpoint? hp.peer
  by_cases hopen : b.available = true ∧ (b.session? p).isSome = true
  · have hs : e.session.isSome = true := by simpa [session?, he] using hopen.2
    have hsend := send_of_session? he (by rw [hr]) hs x
    have hin : e'.role.inbound = p.role.outbound := by rw [hr', hp.inbound_peer]
    have hpeer : b.session? (p.peer name) = e'.session := by simp [session?, he']
    rw [hsend] at hl ⊢
    rw [session?_route hopen.1 hl he', if_pos hin, if_pos hopen, hpeer]
  · rcases send_cases p p.role.outbound x b with ⟨-, ha, hs, -⟩ | ⟨-, hb⟩
    · exact absurd ⟨ha, hs⟩ hopen
    · rw [hb, if_neg hopen]

/-- Without lag payloads that are sent in a row go behind the backlog of the other party, in
order, and the sender's own session stays as it is. -/
theorem session?_sendAll (hp : IsOn name p) {ps : List Payload} {b : Broker Party}
    (h : b.Joins name) (hl : (b.sendAll p p.role.outbound ps).lagged = b.lagged) :
    (b.sendAll p p.role.outbound ps).session? p = b.session? p ∧
      (b.sendAll p p.role.outbound ps).session? (p.peer name) =
        if b.available = true ∧ (b.session? p).isSome = true then
          (b.session? (p.peer name)).map (fun s => { s with backlog := s.backlog ++ ps })
        else b.session? (p.peer name) := by
  induction ps generalizing b with
  | nil => cases hs : b.session? (p.peer name) <;> simp [sendAll, hs]
  | cons x ps ih =>
      rw [sendAll_cons] at hl ⊢
      have h₁ := lagged_le_send p p.role.outbound x b
      have h₂ : (b.send p p.role.outbound x).2.lagged ≤
          ((b.send p p.role.outbound x).2.sendAll p p.role.outbound ps).lagged :=
        lagged_le_sendAll ps _
      have hone : (b.send p p.role.outbound x).2.lagged = b.lagged := by omega
      have hrest := ih (h.of_roster_eq (roster_send p p.role.outbound x b)) (by omega)
      rw [h.session?_send_self hp hone, h.session?_send_peer hp hone,
        available_send] at hrest
      refine ⟨hrest.1, hrest.2.trans ?_⟩
      by_cases hopen : b.available = true ∧ (b.session? p).isSome = true
      · simp [hopen, Function.comp_def]
      · simp [hopen]

/-- Between two open sessions payloads that are sent wait behind those that waited. -/
theorem backlog_sendAll (hp : IsOn name p) {ps : List Payload} (h : b.Joins name)
    (ha : b.available = true) (hs : (b.session? p).isSome = true)
    (hs' : (b.session? (p.peer name)).isSome = true)
    (hl : (b.sendAll p p.role.outbound ps).lagged = b.lagged) :
    (b.sendAll p p.role.outbound ps).backlog (p.peer name) = b.backlog (p.peer name) ++ ps := by
  obtain ⟨s, hs'⟩ := Option.isSome_iff_exists.mp hs'
  have hsent := (session?_sendAll hp h hl).2
  rw [if_pos ⟨ha, hs⟩, hs'] at hsent
  rw [backlog_of_session? hsent, backlog_of_session? hs']

/-- What the broker hands out comes from the session of one of the two parties. -/
theorem gives_of_next? (h : b.Joins name) {i : Inbound} {b' : Broker Party}
    (hn : Carrier.next? b = some ((p, i), b')) : IsOn name p ∧ b.Gives p i b' := by
  obtain ⟨⟨⟨k, l, i'⟩, b''⟩, hb, hr⟩ := Option.map_eq_some_iff.mp hn
  simp only [Prod.mk.injEq] at hr
  obtain ⟨⟨rfl, rfl⟩, rfl⟩ := hr
  obtain ⟨s, s', hs, hnext, rfl⟩ := next?_eq_some h.nodup hb
  obtain ⟨source, htake⟩ := Session.exists_take?_of_next? hnext
  exact ⟨h.isOn_of_session? hs, s, source, s', hs, htake, rfl⟩

end Joins

end Broker

end QuoteBridge
