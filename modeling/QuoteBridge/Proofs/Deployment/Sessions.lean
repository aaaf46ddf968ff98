import QuoteBridge.Proofs.Deployment.Run

/-!
# Sessions of a sound deployment

What holds of the two sessions between an adapter and a generator in every state of a run.

**Outages.**  An open session has seen every outage just while the broker is available.  While it
is not, sessions hold nothing.

**Results.**
* `Broker.Sound.connect`, `Broker.Sound.sendAll`, `Broker.Sound.pop`, `Broker.Sound.lose`,
  `Broker.Sound.setAvailable`: every use of the broker keeps its sessions sound.
* `Broker.Sound.session?_sendAll_cases`: what sending changes.
-/

namespace QuoteBridge

namespace Broker

/-- The sessions on the line between an adapter and the generator of a name. -/
structure Sound (name : String) (b : Broker Party) : Prop where
  joins : b.Joins name
  current : ∀ {p s}, b.session? p = some s →
    s.outagesSeen ≤ b.outages ∧ (s.outagesSeen = b.outages ↔ b.available = true)
  quiet : ∀ {p s}, b.available = false → b.session? p = some s → s.backlog = []
  fed : ∀ {s}, b.session? .adapter = some s → s.backlog ≠ [] →
    (b.session? (.generator name)).isSome = true
  placed : ∀ {p s}, b.session? p = some s → b.Places p

namespace Sound

variable {name : String} {b b' : Broker Party} {p : Party}

/-- Sound brokers are told by their sessions. -/
theorem congr (h : b.Sound name) (hs : ∀ p, b'.session? p = b.session? p)
    (ha : b'.available = b.available) (ho : b'.outages = b.outages) (hr : b'.roster = b.roster)
    (hd : b'.declared = b.declared) : b'.Sound name where
  joins := h.joins.of_roster_eq hr
  current hp := by
    rw [ha, ho]
    exact h.current (hs _ ▸ hp)
  quiet hf hp := h.quiet (ha ▸ hf) (hs _ ▸ hp)
  fed hp hb := by
    rw [hs]
    exact h.fed (hs _ ▸ hp) hb
  placed hp := (h.placed (hs _ ▸ hp)).congr hr hd

theorem listen (h : b.Sound name) (l : Nat) : (b.listen p l).Sound name :=
  h.congr (fun q => session?_listen p q l b) rfl rfl (roster_listen p l b) rfl

/-- Without a session to close, closing it changes nothing. -/
theorem session?_reset (hp : b.session? p = none) (q : Party) :
    (b.reset p).session? q = b.session? q := by
  by_cases hq : q = p
  · rw [hq, session?_reset_self, hp]
  · exact session?_reset_of_ne hq b

theorem reset (h : b.Sound name) (hp : b.session? p = none) : (b.reset p).Sound name :=
  h.congr (session?_reset hp) rfl rfl (roster_reset p b) rfl

/-- A session can be closed while no session holds anything. -/
theorem reset_of_idle (h : b.Sound name)
    (hi : ∀ {q s}, b.session? q = some s → s.backlog = []) : (b.reset p).Sound name := by
  have hold : ∀ {q t}, (b.reset p).session? q = some t → b.session? q = some t := by
    intro q t hq
    by_cases hqp : q = p
    · rw [hqp, session?_reset_self] at hq
      cases hq
    · rw [← hq, session?_reset_of_ne hqp]
  exact ⟨h.joins.of_roster_eq (roster_reset p b), fun hq => h.current (hold hq),
    fun hf hq => h.quiet hf (hold hq), fun ht hne => absurd (hi (hold ht)) hne,
    fun hq => (h.placed (hold hq)).congr (roster_reset p b) rfl⟩

theorem available_of_connect (hc : (b.connect p).1 = .ok ()) : b.available = true := by
  rcases connect_cases p b with ⟨-, ha, -⟩ | ⟨⟨f, hf⟩, -⟩
  · exact ha
  · rw [hf] at hc
    cases hc

theorem connect (h : b.Sound name) (hc : (b.connect p).1 = .ok ()) :
    (b.connect p).2.Sound name := by
  have ha := available_of_connect hc
  obtain ⟨l, hnew⟩ := session?_connect_of_ok hc
  have hother : ∀ {q}, q ≠ p → (b.connect p).2.session? q = b.session? q :=
    fun hq => session?_connect_of_ne hq b
  refine ⟨h.joins.of_roster_eq (roster_connect p b), fun {q s} hq => ?_, fun {q s} hf hq => ?_,
    fun {s} hs hne => ?_, fun {q s} hq => ?_⟩
  · rw [available_connect, outages_connect]
    by_cases hqp : q = p
    · rw [hqp, hnew] at hq
      cases hq
      simp [ha]
    · exact h.current (hother hqp ▸ hq)
  · rw [available_connect, ha] at hf
    cases hf
  · by_cases hgp : Party.generator name = p
    · rw [hgp, hnew]
      rfl
    · rw [hother hgp]
      by_cases hap : Party.adapter = p
      · rw [hap, hnew] at hs
        cases hs
        exact absurd rfl hne
      · exact h.fed (hother hap ▸ hs) hne
  · refine Places.congr ?_ (roster_connect p b) (declared_connect p b)
    by_cases hqp : q = p
    · rw [hqp]
      exact places_of_connect hc
    · exact h.placed (hother hqp ▸ hq)

/-- The session of an endpoint after payloads were sent in a row. -/
theorem session?_sendAll_cases (h : b.Sound name) (hp : IsOn name p) {ps : List Payload}
    (hl : (b.sendAll p p.role.outbound ps).lagged = b.lagged) (q : Party) :
    (b.sendAll p p.role.outbound ps).session? q = b.session? q ∨
      (q = p.peer name ∧ b.available = true ∧ (b.session? p).isSome = true ∧
        (b.sendAll p p.role.outbound ps).session? q =
          (b.session? q).map (fun s => { s with backlog := s.backlog ++ ps })) := by
  have hboth := Joins.session?_sendAll hp h.joins hl
  by_cases hq : IsOn name q
  · rcases hp.eq_or_eq_peer hq with rfl | rfl
    · exact Or.inl hboth.1
    · by_cases hopen : b.available = true ∧ (b.session? p).isSome = true
      · exact Or.inr ⟨rfl, hopen.1, hopen.2, by rw [hboth.2, if_pos hopen]⟩
      · exact Or.inl (by rw [hboth.2, if_neg hopen])
  · have hnone : ∀ {c : Broker Party}, c.Joins name → c.session? q = none := by
      intro c hc
      cases hs : c.session? q with
      | none => rfl
      | some s => exact absurd (hc.isOn_of_session? hs) hq
    rw [hnone h.joins, hnone (h.joins.of_roster_eq (roster_sendAll ps b))]
    exact Or.inl rfl

/-- Sending closes no session and opens none. -/
theorem isSome_session?_sendAll (h : b.Sound name) (hp : IsOn name p) {ps : List Payload}
    (hl : (b.sendAll p p.role.outbound ps).lagged = b.lagged) (q : Party) :
    ((b.sendAll p p.role.outbound ps).session? q).isSome = (b.session? q).isSome := by
  rcases h.session?_sendAll_cases hp hl q with hs | ⟨-, -, -, hs⟩ <;> rw [hs]
  exact Option.isSome_map

theorem sendAll (h : b.Sound name) (hp : IsOn name p) {ps : List Payload}
    (hl : (b.sendAll p p.role.outbound ps).lagged = b.lagged) :
    (b.sendAll p p.role.outbound ps).Sound name := by
  have hcases := h.session?_sendAll_cases hp hl
  refine ⟨h.joins.of_roster_eq (roster_sendAll ps b), fun {q s} hq => ?_, fun {q s} hf hq => ?_,
    fun {s} hs hne => ?_, fun {q s} hq => ?_⟩
  · rw [available_sendAll, outages_sendAll]
    rcases hcases q with hsame | ⟨-, -, -, hmap⟩
    · exact h.current (hsame ▸ hq)
    · rw [hmap] at hq
      obtain ⟨s₀, hs₀, rfl⟩ := Option.map_eq_some_iff.mp hq
      have hc := h.current hs₀
      exact hc
  · rw [available_sendAll] at hf
    rcases hcases q with hsame | ⟨-, ha, -⟩
    · exact h.quiet hf (hsame ▸ hq)
    · rw [hf] at ha
      cases ha
  · rw [h.isSome_session?_sendAll hp hl]
    rcases hcases .adapter with hsame | ⟨hpeer, -, hopen, -⟩
    · exact h.fed (hsame ▸ hs) hne
    · have hpg : p = .generator name := by
        rcases hp with rfl | rfl
        · cases hpeer
        · rfl
      rw [← hpg]
      exact hopen
  · have hsome : (b.session? q).isSome = true := by
      rw [← h.isSome_session?_sendAll hp hl, hq]
      rfl
    obtain ⟨s₀, hs₀⟩ := Option.isSome_iff_exists.mp hsome
    exact (h.placed hs₀).congr (roster_sendAll ps b) (declared_sendAll ps b)

/-- A session that is handed its oldest payload. -/
theorem pop (h : b.Sound name) {s : Session} (hs : b.session? p = some s) {x : Payload}
    {rest : List Payload} (hb : s.backlog = x :: rest) :
    (b.setSession p (some { s with backlog := rest })).Sound name := by
  have hself := session?_setSession_self hs (some { s with backlog := rest })
  have hother : ∀ {q}, q ≠ p →
      (b.setSession p (some { s with backlog := rest })).session? q = b.session? q :=
    fun hq => session?_setSession_of_ne hq _ b
  refine ⟨h.joins.of_roster_eq (roster_setSession p _ b), fun {q t} hq => ?_,
    fun {q t} hf hq => ?_, fun {t} ht hne => ?_, fun {q t} hq => ?_⟩
  · by_cases hqp : q = p
    · rw [hqp, hself] at hq
      cases hq
      have hc := h.current hs
      exact hc
    · exact h.current (hother hqp ▸ hq)
  · by_cases hqp : q = p
    · have hnil := h.quiet hf hs
      rw [hb] at hnil
      cases hnil
    · exact h.quiet hf (hother hqp ▸ hq)
  · have hopen : (b.session? (.generator name)).isSome = true := by
      by_cases hap : Party.adapter = p
      · exact h.fed (hap ▸ hs) (by simp [hb])
      · exact h.fed (hother hap ▸ ht) hne
    by_cases hgp : Party.generator name = p
    · rw [hgp, hself]
      rfl
    · rw [hother hgp]
      exact hopen
  · refine Places.congr ?_ (roster_setSession p _ b) rfl
    by_cases hqp : q = p
    · rw [hqp]
      exact h.placed hs
    · exact h.placed (hother hqp ▸ hq)

/-- A session that is told of an outage; there is none while the broker is available. -/
theorem available_of_lost (h : b.Sound name) {s : Session} (hs : b.session? p = some s)
    (ho : s.outagesSeen < b.outages) : b.available = false := by
  cases ha : b.available with
  | false => rfl
  | true => exact absurd ((h.current hs).2.mpr ha) (Nat.ne_of_lt ho)

theorem lose (h : b.Sound name) {s : Session} (hs : b.session? p = some s)
    (ho : s.outagesSeen < b.outages) : (b.setSession p none).Sound name := by
  have hf := h.available_of_lost hs ho
  have hself := session?_setSession_self hs none
  have hold : ∀ {q t}, (b.setSession p none).session? q = some t → b.session? q = some t := by
    intro q t hq
    by_cases hqp : q = p
    · rw [hqp, hself] at hq
      cases hq
    · rw [← hq, session?_setSession_of_ne hqp]
  exact ⟨h.joins.of_roster_eq (roster_setSession p _ b), fun hq => h.current (hold hq),
    fun hf hq => h.quiet hf (hold hq), fun ht hne => absurd (h.quiet hf (hold ht)) hne,
    fun hq => (h.placed (hold hq)).congr (roster_setSession p _ b) rfl⟩

/-- An idle broker comes up or goes down. -/
theorem setAvailable (h : b.Sound name) (hi : Carrier.next? b = none) (value : Bool) :
    (b.setAvailable value).Sound name := by
  have hidle : ∀ {q s}, b.session? q = some s → s.backlog = [] ∧ b.available = true := by
    intro q s hs
    have hn := next?_eq_none (Option.map_eq_none_iff.mp hi) hs
    have hc := h.current hs
    exact ⟨hn.1, hc.2.mp (Nat.le_antisymm hc.1 hn.2)⟩
  refine ⟨h.joins.of_roster_eq rfl, fun {q s} hs => ?_, fun _ hs => (hidle hs).1,
    fun hs hne => absurd (hidle hs).1 hne, fun hs => (h.placed hs).congr rfl rfl⟩
  have ha := (hidle hs).2
  have ho : s.outagesSeen = b.outages := (h.current hs).2.mpr ha
  cases value <;> simp [Broker.setAvailable, ha, ho]

end Sound

end Broker

end QuoteBridge
