import QuoteBridge.Bus.Broker

/-!
# Sessions at the broker

What each operation of the broker does to the sessions of its endpoints.

**Roster.**  The names of the endpoints, their sides and their destinations stay as they are,
whatever the sessions do.

**Forwarders.**  A session's forwarder that has a payload and an outage before it may turn to
either.
Left to itself it turns to the payload.

**Lag.**  A broker that has pushed nothing out of a session so far has handed on every payload in
full: `lagged` only grows, and while it stands still a routed payload goes behind the others.

**Results.**
* `roster_reset`, `roster_connect`, `roster_send`: no operation of an endpoint changes the roster.
* `session?_connect_of_ok`: a new session is empty and has seen every outage so far.
* `session?_route`: without lag a routed payload goes behind the backlog of every listener.
* `session?_route_push`: with or without lag it is added to the session of every listener.
* `Session.next?_eq_or`: a session left to itself turns to its payloads first.
* `next?_eq_none`, `next?_eq_some`: what the broker hands out, in terms of the sessions.
-/

namespace QuoteBridge

/-- The endpoint without its listener and session. -/
def Endpoint.vacant (e : Endpoint) : Endpoint := { e with listener := none, session := none }

theorem Endpoint.role_of_vacant {e e' : Endpoint} (h : e.vacant = e'.vacant) : e.role = e'.role :=
  (congrArg Endpoint.role h : e.vacant.role = e'.vacant.role)

namespace Broker

variable {κ : Type}

/-- The endpoints by name, without their listeners and sessions. -/
def roster (b : Broker κ) : List (κ × Endpoint) := b.endpoints.map (fun e => (e.1, e.2.vacant))

/-- A change of all endpoints that keeps sides and destinations keeps the roster. -/
theorem roster_mapEndpoints {f : Endpoint → Endpoint} (hf : ∀ e, (f e).vacant = e.vacant)
    (b : Broker κ) : (b.mapEndpoints f).roster = b.roster := by
  simp only [roster, mapEndpoints, List.map_map]
  refine List.map_congr_left (fun e _ => ?_)
  simp [hf]

section Endpoints

variable [DecidableEq κ]

/-- The open session of an endpoint. -/
def session? (k : κ) (b : Broker κ) : Option Session := (b.endpoint? k).bind (·.session)

/-- The payloads that the session of an endpoint holds; none without a session. -/
def backlog (k : κ) (b : Broker κ) : List Payload :=
  ((b.session? k).map (·.backlog)).getD []

theorem isConnected_eq (k : κ) (b : Broker κ) : b.isConnected k = (b.session? k).isSome := by
  cases he : b.endpoint? k <;> simp [isConnected, session?, he]

/-- The payloads of a session tell what an endpoint has waiting. -/
theorem backlog_of_session? {k : κ} {b : Broker κ} {s : Session} (h : b.session? k = some s) :
    b.backlog k = s.backlog := by
  simp [backlog, h]

theorem backlog_congr {k : κ} {b b' : Broker κ} (h : b'.session? k = b.session? k) :
    b'.backlog k = b.backlog k := by
  rw [backlog, h, backlog]

/-- The first entry of a name after a change of the entries of that name. -/
theorem find?_map_self (k : κ) (f : Endpoint → Endpoint) (es : List (κ × Endpoint)) :
    ((es.map (fun e => if e.1 = k then (e.1, f e.2) else e)).find?
        (fun e => e.1 = k)).map (·.2) =
      ((es.find? (fun e => e.1 = k)).map (·.2)).map f := by
  induction es with
  | nil => rfl
  | cons e es ih =>
      by_cases h : e.1 = k
      · simp [h]
      · simpa [h] using ih

/-- The first entry of a name after a change of the entries of another name. -/
theorem find?_map_of_ne {k k' : κ} (hk : k' ≠ k) (f : Endpoint → Endpoint)
    (es : List (κ × Endpoint)) :
    ((es.map (fun e => if e.1 = k then (e.1, f e.2) else e)).find?
        (fun e => e.1 = k')).map (·.2) =
      (es.find? (fun e => e.1 = k')).map (·.2) := by
  induction es with
  | nil => rfl
  | cons e es ih =>
      by_cases h : e.1 = k
      · have hne : k ≠ k' := Ne.symm hk
        simpa [h, hne] using ih
      · by_cases h' : e.1 = k'
        · simp [h', hk]
        · simpa [h, h'] using ih

@[simp] theorem endpoint?_modifyEndpoint_self (k : κ) (f : Endpoint → Endpoint) (b : Broker κ) :
    (b.modifyEndpoint k f).endpoint? k = (b.endpoint? k).map f :=
  find?_map_self k f b.endpoints

theorem endpoint?_modifyEndpoint_of_ne {k k' : κ} (hk : k' ≠ k) (f : Endpoint → Endpoint)
    (b : Broker κ) : (b.modifyEndpoint k f).endpoint? k' = b.endpoint? k' :=
  find?_map_of_ne hk f b.endpoints

@[simp] theorem endpoint?_mapEndpoints (k : κ) (f : Endpoint → Endpoint) (b : Broker κ) :
    (b.mapEndpoints f).endpoint? k = (b.endpoint? k).map f := by
  simp only [endpoint?, mapEndpoints]
  induction b.endpoints with
  | nil => rfl
  | cons e es ih =>
      by_cases h : e.1 = k
      · simp [h]
      · simpa [h] using ih

/-- A change that keeps sides and destinations keeps the roster. -/
theorem roster_modifyEndpoint {f : Endpoint → Endpoint} (k : κ) (b : Broker κ)
    (hf : ∀ e, (f e).vacant = e.vacant) : (b.modifyEndpoint k f).roster = b.roster := by
  simp only [roster, modifyEndpoint, List.map_map]
  refine List.map_congr_left (fun e _ => ?_)
  by_cases h : e.1 = k
  · simp [h, hf]
  · simp [h]

/-- The roster has every endpoint under its name. -/
theorem vacant_endpoint? (k : κ) (b : Broker κ) :
    (b.endpoint? k).map Endpoint.vacant =
      (b.roster.find? (fun e => e.1 = k)).map (·.2) := by
  simp only [endpoint?, roster]
  induction b.endpoints with
  | nil => rfl
  | cons e es ih =>
      by_cases h : e.1 = k
      · simp [h]
      · simpa [h] using ih

/-- Brokers with one roster have the same endpoints but for listeners and sessions. -/
theorem exists_endpoint?_of_roster_eq {k : κ} {b b' : Broker κ} (hr : b'.roster = b.roster)
    {e' : Endpoint} (he' : b'.endpoint? k = some e') :
    ∃ e, b.endpoint? k = some e ∧ e.vacant = e'.vacant := by
  have hv := vacant_endpoint? k b'
  rw [hr, ← vacant_endpoint? k b, he', Option.map_some] at hv
  exact Option.map_eq_some_iff.mp hv.symm

/-- The broker knows both destinations of an endpoint, if there is such an endpoint. -/
def Places (k : κ) (b : Broker κ) : Prop := ∀ e, b.endpoint? k = some e → b.missing? e = none

/-- Which destinations are known depends on the roster. -/
theorem Places.congr {k : κ} {b b' : Broker κ} (h : b.Places k) (hr : b'.roster = b.roster)
    (hd : b'.declared = b.declared) : b'.Places k := by
  intro e' he'
  obtain ⟨e, he, hev⟩ := exists_endpoint?_of_roster_eq hr he'
  have hq : e.vacant.queue = e'.vacant.queue := by rw [hev]
  have ht : e.vacant.topic = e'.vacant.topic := by rw [hev]
  have hm := h e he
  simp only [Endpoint.vacant] at hq ht
  simpa only [missing?, isDeclared, hd, hq, ht] using hm

/-- An endpoint with a session is there. -/
theorem endpoint?_isSome_of_session? {k : κ} {b : Broker κ} {s : Session}
    (h : b.session? k = some s) : ∃ e, b.endpoint? k = some e ∧ e.session = some s :=
  Option.bind_eq_some_iff.mp h

end Endpoints

section Opening

variable [DecidableEq κ]

@[simp] theorem roster_reset (k : κ) (b : Broker κ) : (b.reset k).roster = b.roster :=
  roster_modifyEndpoint k b (by intro e; rfl)

/-- A session that is closed is not closed again. -/
theorem reset_reset (k : κ) (b : Broker κ) : (b.reset k).reset k = b.reset k := by
  simp only [reset, modifyEndpoint, List.map_map, mk.injEq, true_and]
  refine List.map_congr_left (fun e _ => ?_)
  by_cases he : e.1 = k <;> simp [he]

@[simp] theorem session?_reset_self (k : κ) (b : Broker κ) : (b.reset k).session? k = none := by
  simp [reset, session?]

theorem session?_reset_of_ne {k k' : κ} (hk : k' ≠ k) (b : Broker κ) :
    (b.reset k).session? k' = b.session? k' := by
  simp [reset, session?, endpoint?_modifyEndpoint_of_ne hk]

@[simp] theorem roster_listen (k : κ) (l : Nat) (b : Broker κ) :
    (b.listen k l).roster = b.roster :=
  roster_modifyEndpoint k b (by intro e; rfl)

@[simp] theorem session?_listen (k k' : κ) (l : Nat) (b : Broker κ) :
    (b.listen k l).session? k' = b.session? k' := by
  by_cases hk : k' = k
  · subst hk
    cases h : b.endpoint? k' with
    | none => simp [listen, session?, h]
    | some e => simp [listen, session?, h]
  · simp [listen, session?, endpoint?_modifyEndpoint_of_ne hk]

@[simp] theorem roster_setSession (k : κ) (s : Option Session) (b : Broker κ) :
    (b.setSession k s).roster = b.roster :=
  roster_modifyEndpoint k b (by intro e; rfl)

/-- The session of an endpoint that had one, after another was put back. -/
theorem session?_setSession_self {k : κ} {b : Broker κ} {s₀ : Session}
    (h : b.session? k = some s₀) (s : Option Session) : (b.setSession k s).session? k = s := by
  obtain ⟨e, he, -⟩ := endpoint?_isSome_of_session? h
  simp [setSession, session?, he]

theorem session?_setSession_of_ne {k k' : κ} (hk : k' ≠ k) (s : Option Session) (b : Broker κ) :
    (b.setSession k s).session? k' = b.session? k' := by
  simp [setSession, session?, endpoint?_modifyEndpoint_of_ne hk]

/-- An endpoint whose destinations are known connects to an available broker. -/
theorem connect_of_places {k : κ} {b : Broker κ} (h : b.Places k) (ha : b.available = true)
    (he : (b.endpoint? k).isSome = true) : (b.connect k).1 = .ok () := by
  obtain ⟨e, he⟩ := Option.isSome_iff_exists.mp he
  simp [connect, he, ha, h e he]

/-- A successful attempt to connect knew the destinations. -/
theorem places_of_connect {k : κ} {b : Broker κ} (h : (b.connect k).1 = .ok ()) : b.Places k := by
  intro e he
  by_cases ha : b.available = true
  · cases hm : b.missing? e with
    | none => rfl
    | some n => simp [connect, he, ha, hm] at h
  · simp [connect, he, ha] at h

/-- An attempt to connect succeeds at an available broker or leaves the broker as it was. -/
theorem connect_cases (k : κ) (b : Broker κ) :
    ((b.connect k).1 = .ok () ∧ b.available = true ∧ (b.endpoint? k).isSome = true ∧
        (b.connect k).2 = b.modifyEndpoint k (fun e =>
          { e with session := some ⟨e.listener, [], b.outages⟩ })) ∨
      ((∃ f, (b.connect k).1 = .error f) ∧ (b.connect k).2 = b) := by
  unfold connect
  cases he : b.endpoint? k with
  | none => exact Or.inr ⟨⟨_, rfl⟩, rfl⟩
  | some e =>
      by_cases ha : b.available = true
      · cases hm : b.missing? e with
        | none => exact Or.inl (by simp [ha, hm])
        | some n => exact Or.inr (by simp [ha, hm])
      · exact Or.inr (by simp [ha])

/-- An attempt to connect that fails leaves the broker as it was. -/
theorem connect_of_error {k : κ} {b : Broker κ} {f : BusError} (h : (b.connect k).1 = .error f) :
    (b.connect k).2 = b := by
  rcases connect_cases k b with ⟨hok, -⟩ | ⟨-, hb⟩
  · cases hok.symm.trans h
  · exact hb

@[simp] theorem roster_connect (k : κ) (b : Broker κ) : (b.connect k).2.roster = b.roster := by
  rcases connect_cases k b with ⟨-, -, -, hb⟩ | ⟨-, hb⟩
  · rw [hb]
    exact roster_modifyEndpoint k b (by intro e; rfl)
  · rw [hb]

/-- A new session is empty and has seen every outage so far. -/
theorem session?_connect_of_ok {k : κ} {b : Broker κ} (h : (b.connect k).1 = .ok ()) :
    ∃ l, (b.connect k).2.session? k = some ⟨l, [], b.outages⟩ := by
  rcases connect_cases k b with ⟨-, -, he, hb⟩ | ⟨⟨f, hf⟩, -⟩
  · obtain ⟨e, he⟩ := Option.isSome_iff_exists.mp he
    exact ⟨e.listener, by simp [hb, session?, he]⟩
  · rw [hf] at h
    cases h

theorem session?_connect_of_ne {k k' : κ} (hk : k' ≠ k) (b : Broker κ) :
    (b.connect k).2.session? k' = b.session? k' := by
  rcases connect_cases k b with ⟨-, -, -, hb⟩ | ⟨-, hb⟩
  · simp [hb, session?, endpoint?_modifyEndpoint_of_ne hk]
  · rw [hb]

theorem available_connect (k : κ) (b : Broker κ) :
    (b.connect k).2.available = b.available := by
  rcases connect_cases k b with ⟨-, -, -, hb⟩ | ⟨-, hb⟩
  · rw [hb]
    rfl
  · rw [hb]

theorem outages_connect (k : κ) (b : Broker κ) : (b.connect k).2.outages = b.outages := by
  rcases connect_cases k b with ⟨-, -, -, hb⟩ | ⟨-, hb⟩
  · rw [hb]
    rfl
  · rw [hb]

theorem declared_connect (k : κ) (b : Broker κ) : (b.connect k).2.declared = b.declared := by
  rcases connect_cases k b with ⟨-, -, -, hb⟩ | ⟨-, hb⟩
  · rw [hb]
    rfl
  · rw [hb]

theorem lagged_connect (k : κ) (b : Broker κ) : (b.connect k).2.lagged = b.lagged := by
  rcases connect_cases k b with ⟨-, -, -, hb⟩ | ⟨-, hb⟩
  · rw [hb]
    rfl
  · rw [hb]

theorem capacity_connect (k : κ) (b : Broker κ) : (b.connect k).2.capacity = b.capacity := by
  rcases connect_cases k b with ⟨-, -, -, hb⟩ | ⟨-, hb⟩ <;> rw [hb]
  rfl

end Opening

section Sending

@[simp] theorem roster_route (ch : Channel) (p : Payload) (b : Broker κ) :
    (b.route ch p).2.roster = b.roster := by
  unfold route
  split
  · refine roster_mapEndpoints (fun e => ?_) b
    unfold Endpoint.offer
    split <;> rfl
  · rfl

theorem available_route (ch : Channel) (p : Payload) (b : Broker κ) :
    (b.route ch p).2.available = b.available := by
  unfold route
  split <;> rfl

theorem outages_route (ch : Channel) (p : Payload) (b : Broker κ) :
    (b.route ch p).2.outages = b.outages := by
  unfold route
  split <;> rfl

theorem declared_route (ch : Channel) (p : Payload) (b : Broker κ) :
    (b.route ch p).2.declared = b.declared := by
  unfold route
  split <;> rfl

theorem capacity_route (ch : Channel) (p : Payload) (b : Broker κ) :
    (b.route ch p).2.capacity = b.capacity := by
  unfold route
  split <;> rfl

theorem lagged_le_route (ch : Channel) (p : Payload) (b : Broker κ) :
    b.lagged ≤ (b.route ch p).2.lagged := by
  unfold route
  split
  · exact Nat.le_add_right _ _
  · exact Nat.le_refl _

/-- Without lag no session on the channel is full. -/
theorem lags_eq_false_of_route {ch : Channel} {p : Payload} {b : Broker κ}
    (ha : b.available = true) (hl : (b.route ch p).2.lagged = b.lagged) {x : κ × Endpoint}
    (hx : x ∈ b.endpoints) : x.2.lags b.capacity ch = false := by
  have hc : b.endpoints.countP (fun e => e.2.lags b.capacity ch) = 0 := by
    have hr : (b.route ch p).2.lagged =
        b.lagged + b.endpoints.countP (fun e => e.2.lags b.capacity ch) := by
      simp [route, ha]
    omega
  simpa using List.countP_eq_zero.mp hc x hx

variable [DecidableEq κ]

/-- A routed payload is added to every session that listens to its channel. -/
theorem session?_route_push {ch : Channel} {b : Broker κ} (ha : b.available = true) {k : κ}
    {e : Endpoint} (he : b.endpoint? k = some e) (p : Payload) :
    (b.route ch p).2.session? k =
      if e.role.inbound = ch then (b.session? k).map (Session.push b.capacity p)
      else b.session? k := by
  have hr : (b.route ch p).2.endpoint? k = some (e.offer b.capacity ch p) := by
    have hm := endpoint?_mapEndpoints k (Endpoint.offer b.capacity ch p) b
    rw [he] at hm
    simpa [route, ha, endpoint?] using hm
  rw [session?, hr, session?, he, Option.bind_some, Option.bind_some]
  unfold Endpoint.offer
  split <;> rfl

/-- Without lag a routed payload goes behind the backlog of every listener. -/
theorem session?_route {ch : Channel} {p : Payload} {b : Broker κ} (ha : b.available = true)
    (hl : (b.route ch p).2.lagged = b.lagged) {k : κ} {e : Endpoint}
    (he : b.endpoint? k = some e) :
    (b.route ch p).2.session? k =
      if e.role.inbound = ch then
        e.session.map (fun s => { s with backlog := s.backlog ++ [p] })
      else e.session := by
  have hsession : b.session? k = e.session := by simp [session?, he]
  rw [session?_route_push ha he, hsession]
  by_cases hc : e.role.inbound = ch
  · obtain ⟨x, hx, rfl⟩ := Option.map_eq_some_iff.mp he
    have hlags := lags_eq_false_of_route ha hl (List.mem_of_find?_eq_some hx)
    cases hs : x.2.session with
    | none => rfl
    | some s =>
        have hlt : s.backlog.length < b.capacity := by
          simpa [Endpoint.lags, hc, hs] using hlags
        have hz : s.backlog.length + 1 - b.capacity = 0 := by omega
        simp [hc, Session.push, hz]
  · rw [if_neg hc, if_neg hc]

/-- An endpoint sends through its session at an available broker, or not at all. -/
theorem send_cases (k : κ) (ch : Channel) (p : Payload) (b : Broker κ) :
    ((b.send k ch p).1 = .ok () ∧ b.available = true ∧ (b.session? k).isSome = true ∧
        (b.send k ch p).2 = (b.route ch p).2) ∨
      ((∃ f, (b.send k ch p).1 = .error f) ∧ (b.send k ch p).2 = b) := by
  unfold send
  cases he : b.endpoint? k with
  | none => exact Or.inr ⟨⟨_, rfl⟩, rfl⟩
  | some e =>
      by_cases hc : ch = e.role.outbound
      · by_cases hs : e.session.isSome = true
        · by_cases ha : b.available = true
          · left
            simp [session?, he, ← hc, hs, ha, route]
          · right
            simp [← hc, hs, ha, route]
        · right
          simp [← hc, hs]
      · right
        simp [hc]

/-- What an endpoint with a session sends on its own channel is routed. -/
theorem send_of_session? {k : κ} {ch : Channel} {b : Broker κ} {e : Endpoint}
    (he : b.endpoint? k = some e) (hc : e.role.outbound = ch) (hs : e.session.isSome = true)
    (p : Payload) : b.send k ch p = b.route ch p := by
  simp [send, he, hc, hs]

@[simp] theorem roster_send (k : κ) (ch : Channel) (p : Payload) (b : Broker κ) :
    (b.send k ch p).2.roster = b.roster := by
  rcases send_cases k ch p b with ⟨-, -, -, hb⟩ | ⟨-, hb⟩ <;> simp [hb]

theorem available_send (k : κ) (ch : Channel) (p : Payload) (b : Broker κ) :
    (b.send k ch p).2.available = b.available := by
  rcases send_cases k ch p b with ⟨-, -, -, hb⟩ | ⟨-, hb⟩ <;> simp [hb, available_route]

theorem outages_send (k : κ) (ch : Channel) (p : Payload) (b : Broker κ) :
    (b.send k ch p).2.outages = b.outages := by
  rcases send_cases k ch p b with ⟨-, -, -, hb⟩ | ⟨-, hb⟩ <;> simp [hb, outages_route]

theorem declared_send (k : κ) (ch : Channel) (p : Payload) (b : Broker κ) :
    (b.send k ch p).2.declared = b.declared := by
  rcases send_cases k ch p b with ⟨-, -, -, hb⟩ | ⟨-, hb⟩ <;> simp [hb, declared_route]

theorem capacity_send (k : κ) (ch : Channel) (p : Payload) (b : Broker κ) :
    (b.send k ch p).2.capacity = b.capacity := by
  rcases send_cases k ch p b with ⟨-, -, -, hb⟩ | ⟨-, hb⟩ <;> simp [hb, capacity_route]

theorem lagged_le_send (k : κ) (ch : Channel) (p : Payload) (b : Broker κ) :
    b.lagged ≤ (b.send k ch p).2.lagged := by
  rcases send_cases k ch p b with ⟨-, -, -, hb⟩ | ⟨-, hb⟩
  · rw [hb]
    exact lagged_le_route ch p b
  · exact Nat.le_of_eq (by rw [hb])

end Sending

section SendingAll

variable [DecidableEq κ] {k : κ} {ch : Channel}

/-- Sends payloads in a row. -/
def sendAll (k : κ) (ch : Channel) (ps : List Payload)
    (b : Broker κ) : Broker κ :=
  ps.foldl (fun b p => (b.send k ch p).2) b

theorem sendAll_cons (p : Payload) (ps : List Payload) (b : Broker κ) :
    b.sendAll k ch (p :: ps) = (b.send k ch p).2.sendAll k ch ps := rfl

/-- What sending keeps is kept by sending in a row. -/
theorem sendAll_induction {P : Broker κ → Prop} (hsend : ∀ p b, P b → P (b.send k ch p).2)
    (ps : List Payload) {b : Broker κ} (h : P b) : P (b.sendAll k ch ps) := by
  induction ps generalizing b with
  | nil => exact h
  | cons p ps ih => exact ih (hsend p b h)

/-- Nothing is sent without a session. -/
theorem sendAll_of_closed {b : Broker κ} (h : b.session? k = none) (ps : List Payload) :
    b.sendAll k ch ps = b := by
  refine sendAll_induction (P := fun b' => b' = b) (fun p b' hb => ?_) ps rfl
  subst hb
  rcases send_cases k ch p b' with ⟨-, -, hs, -⟩ | ⟨-, hb⟩
  · rw [h] at hs
    cases hs
  · exact hb

@[simp] theorem roster_sendAll (ps : List Payload) (b : Broker κ) :
    (b.sendAll k ch ps).roster = b.roster :=
  sendAll_induction (P := fun b' => b'.roster = b.roster)
    (fun p b' h => (roster_send k ch p b').trans h) ps rfl

theorem available_sendAll (ps : List Payload) (b : Broker κ) :
    (b.sendAll k ch ps).available = b.available :=
  sendAll_induction (P := fun b' => b'.available = b.available)
    (fun p b' h => (available_send k ch p b').trans h) ps rfl

theorem outages_sendAll (ps : List Payload) (b : Broker κ) :
    (b.sendAll k ch ps).outages = b.outages :=
  sendAll_induction (P := fun b' => b'.outages = b.outages)
    (fun p b' h => (outages_send k ch p b').trans h) ps rfl

theorem declared_sendAll (ps : List Payload) (b : Broker κ) :
    (b.sendAll k ch ps).declared = b.declared :=
  sendAll_induction (P := fun b' => b'.declared = b.declared)
    (fun p b' h => (declared_send k ch p b').trans h) ps rfl

theorem capacity_sendAll (ps : List Payload) (b : Broker κ) :
    (b.sendAll k ch ps).capacity = b.capacity :=
  sendAll_induction (P := fun b' => b'.capacity = b.capacity)
    (fun p b' h => (capacity_send k ch p b').trans h) ps rfl

theorem lagged_le_sendAll (ps : List Payload) (b : Broker κ) :
    b.lagged ≤ (b.sendAll k ch ps).lagged :=
  sendAll_induction (P := fun b' => b.lagged ≤ b'.lagged)
    (fun p b' h => Nat.le_trans h (lagged_le_send k ch p b')) ps (Nat.le_refl b.lagged)

end SendingAll

end Broker

section Forwarding

/-- What a forwarder may turn to. -/
inductive Source
  | payloads
  | outages
  deriving DecidableEq

/-- What a session has for its listener from a source, and the session behind it. -/
def Session.take? (outages : Nat) (s : Session) : Source → Option (Inbound × Option Session)
  | .payloads =>
      match s.backlog with
      | p :: rest => some (.payload p, some { s with backlog := rest })
      | [] => none
  | .outages => if s.outagesSeen < outages then some (.lost, none) else none

theorem Session.next?_eq_or (outages : Nat) (s : Session) :
    s.next? outages = (s.take? outages .payloads).or (s.take? outages .outages) := by
  unfold next? take?
  cases s.backlog <;> rfl

/-- A session left to itself turns to one of the two. -/
theorem Session.exists_take?_of_next? {outages : Nat} {s : Session}
    {r : Inbound × Option Session} (h : s.next? outages = some r) :
    ∃ source, s.take? outages source = some r := by
  rw [next?_eq_or, Option.or_eq_some_iff] at h
  rcases h with h | ⟨-, h⟩
  · exact ⟨.payloads, h⟩
  · exact ⟨.outages, h⟩

/-- What the forwarder of an endpoint hands to its listener from a source. -/
def Broker.take? {κ : Type} [DecidableEq κ] (k : κ) (source : Source) (b : Broker κ) :
    Option ((Option Nat × Inbound) × Broker κ) :=
  (b.session? k).bind (fun s =>
    (s.take? b.outages source).map (fun r => ((s.listener, r.1), b.setSession k r.2)))

end Forwarding

namespace Broker

variable {κ : Type}

section Receiving

/-- A session that has nothing holds no payload and has seen every outage. -/
theorem next?_session_eq_none {outages : Nat} {s : Session} :
    s.next? outages = none ↔ s.backlog = [] ∧ outages ≤ s.outagesSeen := by
  unfold Session.next?
  split
  · rename_i p rest h
    simp [h]
  · rename_i h
    by_cases ho : s.outagesSeen < outages
    · simp [ho, h]
    · simp [ho, h, Nat.le_of_not_lt ho]

theorem pendingAmong?_eq_none {outages : Nat} {es : List (κ × Endpoint)}
    (h : pendingAmong? outages es = none) {x : κ × Endpoint} (hx : x ∈ es) {s : Session}
    (hs : x.2.session = some s) : s.next? outages = none := by
  induction es with
  | nil => cases hx
  | cons head es ih =>
      obtain ⟨k, e⟩ := head
      cases hsession : e.session with
      | none =>
          rcases List.mem_cons.mp hx with rfl | hx
          · rw [hsession] at hs
            cases hs
          · exact ih (by simpa [pendingAmong?, hsession] using h) hx
      | some s₀ =>
          cases hn : s₀.next? outages with
          | some r => simp [pendingAmong?, hsession, hn] at h
          | none =>
              rcases List.mem_cons.mp hx with rfl | hx
              · rw [hsession] at hs
                exact Option.some.inj hs ▸ hn
              · exact ih (by simpa [pendingAmong?, hsession, hn] using h) hx

variable [DecidableEq κ]

/-- A broker without work has nothing in any session. -/
theorem next?_eq_none {b : Broker κ} (h : b.next? = none) {k : κ} {s : Session}
    (hs : b.session? k = some s) : s.backlog = [] ∧ b.outages ≤ s.outagesSeen := by
  have hp : pendingAmong? b.outages b.endpoints = none := by
    simpa [next?] using h
  obtain ⟨e, he, hes⟩ := endpoint?_isSome_of_session? hs
  obtain ⟨x, hx, rfl⟩ := Option.map_eq_some_iff.mp he
  exact next?_session_eq_none.mp
    (pendingAmong?_eq_none hp (List.mem_of_find?_eq_some hx) hes)

theorem pendingAmong?_eq_some {outages : Nat} {k : κ} {l : Option Nat} {i : Inbound}
    {s' : Option Session} {es : List (κ × Endpoint)} (hd : (es.map (·.1)).Nodup)
    (h : pendingAmong? outages es = some (k, l, i, s')) :
    ∃ s, ((es.find? (fun e => e.1 = k)).map (·.2)).bind (·.session) = some s ∧
      s.next? outages = some (i, s') := by
  induction es with
  | nil => cases h
  | cons head es ih =>
      obtain ⟨k₀, e⟩ := head
      have hd := List.nodup_cons.mp hd
      have hskip : pendingAmong? outages es = some (k, l, i, s') →
          ∃ s, ((((k₀, e) :: es).find? (fun e => e.1 = k)).map (·.2)).bind (·.session) = some s ∧
            s.next? outages = some (i, s') := by
        intro h
        obtain ⟨s, hs, hn⟩ := ih hd.2 h
        have hk : k₀ ≠ k := by
          rintro rfl
          cases hf : es.find? (fun e => e.1 = k₀) with
          | none => simp [hf] at hs
          | some x =>
              have hx : x.1 = k₀ := by simpa using List.find?_some hf
              exact hd.1 (List.mem_map.mpr ⟨x, List.mem_of_find?_eq_some hf, hx⟩)
        exact ⟨s, by simpa [hk] using hs, hn⟩
      cases hsession : e.session with
      | none => exact hskip (by simpa [pendingAmong?, hsession] using h)
      | some s₀ =>
          cases hn : s₀.next? outages with
          | none => exact hskip (by simpa [pendingAmong?, hsession, hn] using h)
          | some r =>
              simp only [pendingAmong?, hsession, hn, Option.some.injEq, Prod.mk.injEq] at h
              obtain ⟨rfl, -, rfl, rfl⟩ := h
              exact ⟨s₀, by simp [hsession], hn⟩

/-- What the broker hands out comes from the session of the endpoint that it names. -/
theorem next?_eq_some {b b' : Broker κ} (hd : (b.roster.map (·.1)).Nodup) {k : κ}
    {l : Option Nat} {i : Inbound} (h : b.next? = some ((k, l, i), b')) :
    ∃ s s', b.session? k = some s ∧ s.next? b.outages = some (i, s') ∧
      b' = b.setSession k s' := by
  obtain ⟨⟨k₀, l₀, i₀, s'⟩, hp, hr⟩ := Option.map_eq_some_iff.mp h
  obtain ⟨⟨rfl, rfl, rfl⟩, rfl⟩ := Prod.mk.injEq .. ▸ hr
  have hd' : (b.endpoints.map (·.1)).Nodup := by
    simpa [roster, Function.comp_def] using hd
  obtain ⟨s, hs, hn⟩ := pendingAmong?_eq_some hd' hp
  exact ⟨s, s', hs, hn, rfl⟩

end Receiving

end Broker
end QuoteBridge
