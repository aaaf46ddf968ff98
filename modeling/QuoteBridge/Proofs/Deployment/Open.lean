import QuoteBridge.Proofs.Deployment.Line

/-!
# Open lines

A line whose broker was never taken down, seen by what its sessions hold.

**Overflow.**  A session that is full loses its oldest payloads to newer ones.  What it holds is
then still some of what was sent, and never nothing.

**Results.**
* `Broker.Open.sendAll`, `Broker.Open.pop`, `Broker.Open.redial`: what keeps a line open.
* `Broker.Open.mem_backlog_sendAll`, `Broker.Open.length_backlog_sendAll_le`,
  `Broker.Open.backlog_sendAll_ne_nil`: what a session holds after payloads were sent.
-/

namespace QuoteBridge

namespace Session

/-- Adds payloads in turn. -/
def pushAll (capacity : Nat) (ps : List Payload) (s : Session) : Session :=
  ps.foldl (fun s p => s.push capacity p) s

variable {capacity : Nat} {ps : List Payload} {s : Session}

theorem pushAll_cons (p : Payload) (ps : List Payload) (s : Session) :
    s.pushAll capacity (p :: ps) = (s.push capacity p).pushAll capacity ps := rfl

@[simp] theorem outagesSeen_pushAll : (s.pushAll capacity ps).outagesSeen = s.outagesSeen := by
  induction ps generalizing s with
  | nil => rfl
  | cons p ps ih => exact ih

theorem mem_backlog_push {p x : Payload} (h : x ∈ (s.push capacity p).backlog) :
    x ∈ s.backlog ∨ x = p := by
  have hm := List.mem_of_mem_drop h
  simpa using hm

theorem mem_backlog_pushAll {x : Payload} (h : x ∈ (s.pushAll capacity ps).backlog) :
    x ∈ s.backlog ∨ x ∈ ps := by
  induction ps generalizing s with
  | nil => exact .inl h
  | cons p ps ih =>
      rcases ih h with hm | hm
      · rcases mem_backlog_push hm with hm | rfl
        · exact .inl hm
        · exact .inr (List.mem_cons_self ..)
      · exact .inr (List.mem_cons_of_mem _ hm)

theorem length_backlog_pushAll_le (h : s.backlog.length ≤ capacity) :
    (s.pushAll capacity ps).backlog.length ≤ capacity := by
  induction ps generalizing s with
  | nil => exact h
  | cons p ps ih => exact ih (length_backlog_push_le h)

theorem length_backlog_pushAll_le_add :
    (s.pushAll capacity ps).backlog.length ≤ s.backlog.length + ps.length := by
  induction ps generalizing s with
  | nil => exact Nat.le_refl _
  | cons p ps ih =>
      have hone : (s.push capacity p).backlog.length ≤ s.backlog.length + 1 := by
        simp only [push, List.length_drop, List.length_append, List.length_singleton]
        omega
      have hrest := @ih (s.push capacity p)
      rw [pushAll_cons, List.length_cons]
      omega

/-- A session with room for one payload holds something once it was given one. -/
theorem backlog_push_ne_nil (hc : 0 < capacity) (p : Payload) :
    (s.push capacity p).backlog ≠ [] := by
  intro hnil
  have hlen := congrArg List.length hnil
  simp only [push, List.length_drop, List.length_append, List.length_singleton,
    List.length_nil] at hlen
  omega

theorem backlog_pushAll_ne_nil (hc : 0 < capacity) (h : s.backlog ≠ [] ∨ ps ≠ []) :
    (s.pushAll capacity ps).backlog ≠ [] := by
  induction ps generalizing s with
  | nil => exact h.resolve_right (fun hne => hne rfl)
  | cons p ps ih => exact ih (.inl (backlog_push_ne_nil hc p))

end Session

namespace Broker

variable {name : String} {b b' : Broker Party} {p q : Party}

/-- What a party sends is added to the other party's session, if both sessions are open. -/
theorem Joins.session?_send (h : b.Joins name) (hp : IsOn name p) (ha : b.available = true)
    (x : Payload) :
    (b.send p p.role.outbound x).2.session? p = b.session? p ∧
      (b.send p p.role.outbound x).2.session? (p.peer name) =
        if (b.session? p).isSome = true then
          (b.session? (p.peer name)).map (Session.push b.capacity x)
        else b.session? (p.peer name) := by
  obtain ⟨e, he, hr⟩ := h.endpoint? hp
  obtain ⟨e', he', hr'⟩ := h.endpoint? hp.peer
  have hself : b.session? p = e.session := by simp [session?, he]
  by_cases hs : (b.session? p).isSome = true
  · have hsend := send_of_session? he (by rw [hr]) (hself ▸ hs) x
    have hin : e'.role.inbound = p.role.outbound := by rw [hr', hp.inbound_peer]
    have hout : e.role.inbound ≠ p.role.outbound := hr ▸ (Role.outbound_ne_inbound _).symm
    rw [hsend, if_pos hs, session?_route_push ha he, session?_route_push ha he', if_neg hout,
      if_pos hin]
    exact ⟨rfl, rfl⟩
  · rcases send_cases p p.role.outbound x b with ⟨-, -, hs', -⟩ | ⟨-, hb⟩
    · exact absurd hs' hs
    · rw [hb, if_neg hs]
      exact ⟨rfl, rfl⟩

theorem Joins.session?_sendAll_push (h : b.Joins name) (hp : IsOn name p)
    (ha : b.available = true) (ps : List Payload) :
    (b.sendAll p p.role.outbound ps).session? p = b.session? p ∧
      (b.sendAll p p.role.outbound ps).session? (p.peer name) =
        if (b.session? p).isSome = true then
          (b.session? (p.peer name)).map (Session.pushAll b.capacity ps)
        else b.session? (p.peer name) := by
  induction ps generalizing b with
  | nil =>
      refine ⟨rfl, ?_⟩
      show b.session? (p.peer name) = _
      split
      · cases b.session? (p.peer name) <;> rfl
      · rfl
  | cons x ps ih =>
      obtain ⟨hself, hpeer⟩ := h.session?_send hp ha x
      have hrest := ih (h.of_roster_eq (roster_send p p.role.outbound x b))
        ((available_send p p.role.outbound x b).trans ha)
      rw [hself, hpeer, capacity_send] at hrest
      refine ⟨hrest.1, hrest.2.trans ?_⟩
      by_cases hs : (b.session? p).isSome = true
      · rw [if_pos hs, if_pos hs, if_pos hs, Option.map_map]
        rfl
      · rw [if_neg hs, if_neg hs, if_neg hs]

/-- A line whose broker was never taken down, and whose destinations are known. -/
structure Open (name : String) (b : Broker Party) : Prop where
  joins : b.Joins name
  available : b.available = true
  roomy : 0 < b.capacity
  current : ∀ {p s}, b.session? p = some s → s.outagesSeen = b.outages
  within : ∀ {p s}, b.session? p = some s → s.backlog.length ≤ b.capacity
  placed : ∀ p, b.Places p

namespace Open

/-- Open lines are told by their sessions. -/
theorem congr (h : b.Open name) (ha : b'.available = b.available) (ho : b'.outages = b.outages)
    (hr : b'.roster = b.roster) (hd : b'.declared = b.declared) (hc : b'.capacity = b.capacity)
    (hs : ∀ {q s}, b'.session? q = some s →
      s.outagesSeen = b.outages ∧ s.backlog.length ≤ b.capacity) : b'.Open name where
  joins := h.joins.of_roster_eq hr
  available := ha.trans h.available
  roomy := hc ▸ h.roomy
  current hq := ho ▸ (hs hq).1
  within hq := hc ▸ (hs hq).2
  placed q := (h.placed q).congr hr hd

theorem session (h : b.Open name) {s : Session} (hs : b.session? p = some s) :
    s.outagesSeen = b.outages ∧ s.backlog.length ≤ b.capacity :=
  ⟨h.current hs, h.within hs⟩

theorem listen (h : b.Open name) (l : Nat) : (b.listen p l).Open name :=
  h.congr rfl rfl (roster_listen p l b) rfl rfl fun hs =>
    h.session ((session?_listen p _ l b) ▸ hs)

theorem setAvailable (h : b.Open name) : b.setAvailable true = b := by
  have ha := h.available
  obtain ⟨capacity, declared, available, outages, routed, lagged, endpoints⟩ := b
  obtain rfl : available = true := ha
  rfl

/-- No session is told that it is lost. -/
theorem not_lost (h : b.Open name) : ¬ b.Gives p .lost b' := by
  intro hg
  obtain ⟨s, hs, hlt, -⟩ := hg.lost
  rw [h.current hs] at hlt
  exact Nat.lt_irrefl _ hlt

/-- An attempt to connect succeeds. -/
theorem redial (h : b.Open name) (hp : IsOn name p) :
    ((b.reset p).connect p).1 = .ok () ∧ ((b.reset p).connect p).2.Open name ∧
      (((b.reset p).connect p).2.session? p).isSome = true ∧
      ((b.reset p).connect p).2.backlog p = [] ∧
      ∀ q, q ≠ p → ((b.reset p).connect p).2.session? q = b.session? q := by
  obtain ⟨e, he, -⟩ := h.joins.endpoint? hp
  have hplaced : (b.reset p).Places p := (h.placed p).congr (roster_reset p b) rfl
  have hthere : ((b.reset p).endpoint? p).isSome = true := by simp [reset, he]
  have hok := connect_of_places hplaced h.available hthere
  obtain ⟨l, hnew⟩ := session?_connect_of_ok hok
  have hother : ∀ q, q ≠ p → ((b.reset p).connect p).2.session? q = b.session? q :=
    fun q hq => (session?_connect_of_ne hq _).trans (session?_reset_of_ne hq b)
  refine ⟨hok, ?_, by rw [hnew]; rfl, backlog_of_session? hnew, hother⟩
  refine h.congr (available_connect p _) (outages_connect p _)
    ((roster_connect p _).trans (roster_reset p b)) (declared_connect p _) (capacity_connect p _) ?_
  intro q s hs
  by_cases hq : q = p
  · rw [hq, hnew] at hs
    cases hs
    exact ⟨rfl, Nat.zero_le _⟩
  · exact h.session (hother q hq ▸ hs)

section Sending

variable {ps : List Payload}

/-- Only the two parties have sessions. -/
theorem session?_of_not_isOn (h : b.Joins name) (hq : ¬ IsOn name q) : b.session? q = none := by
  cases hs : b.session? q with
  | none => rfl
  | some s => exact absurd (h.isOn_of_session? hs) hq

/-- The session of any endpoint after payloads were sent: as it was, or with the payloads. -/
theorem session?_sendAll_cases (h : b.Open name) (hp : IsOn name p) (ps : List Payload)
    (q : Party) :
    (b.sendAll p p.role.outbound ps).session? q = b.session? q ∨
      q = p.peer name ∧ (b.sendAll p p.role.outbound ps).session? q =
        (b.session? q).map (Session.pushAll b.capacity ps) := by
  obtain ⟨hself, hpeer⟩ := h.joins.session?_sendAll_push hp h.available ps
  by_cases hq : IsOn name q
  · rcases hp.eq_or_eq_peer hq with rfl | rfl
    · exact .inl hself
    · rw [hpeer]
      split
      · exact .inr ⟨rfl, rfl⟩
      · exact .inl rfl
  · rw [session?_of_not_isOn h.joins hq,
      session?_of_not_isOn (h.joins.of_roster_eq (roster_sendAll ps b)) hq]
    exact .inl rfl

theorem sendAll (h : b.Open name) (hp : IsOn name p) (ps : List Payload) :
    (b.sendAll p p.role.outbound ps).Open name := by
  refine h.congr (available_sendAll ps b) (outages_sendAll ps b) (roster_sendAll ps b)
    (declared_sendAll ps b) (capacity_sendAll ps b) ?_
  intro q s hs
  rcases h.session?_sendAll_cases hp ps q with hq | ⟨-, hq⟩
  · exact h.session (hq ▸ hs)
  · rw [hq] at hs
    obtain ⟨s₀, hs₀, rfl⟩ := Option.map_eq_some_iff.mp hs
    exact ⟨Session.outagesSeen_pushAll.trans (h.current hs₀),
      Session.length_backlog_pushAll_le (h.within hs₀)⟩

theorem isSome_session?_sendAll (h : b.Open name) (hp : IsOn name p) (ps : List Payload)
    (q : Party) :
    ((b.sendAll p p.role.outbound ps).session? q).isSome = (b.session? q).isSome := by
  rcases h.session?_sendAll_cases hp ps q with hq | ⟨-, hq⟩ <;> rw [hq]
  exact Option.isSome_map

theorem backlog_sendAll_self (h : b.Open name) (hp : IsOn name p) (ps : List Payload) :
    (b.sendAll p p.role.outbound ps).backlog p = b.backlog p :=
  backlog_congr (h.joins.session?_sendAll_push hp h.available ps).1

/-- What waits after payloads were sent waited before or was sent. -/
theorem mem_backlog_sendAll (h : b.Open name) (hp : IsOn name p) {x : Payload}
    (hx : x ∈ (b.sendAll p p.role.outbound ps).backlog q) : x ∈ b.backlog q ∨ x ∈ ps := by
  rcases h.session?_sendAll_cases hp ps q with hq | ⟨-, hq⟩
  · exact .inl (backlog_congr hq ▸ hx)
  · cases hs : b.session? q with
    | none =>
        rw [hs] at hq
        simp [backlog, hq] at hx
    | some s =>
        rw [hs] at hq
        rw [backlog_of_session? hq] at hx
        rw [backlog_of_session? hs]
        exact Session.mem_backlog_pushAll hx

theorem length_backlog_sendAll_le (h : b.Open name) (hp : IsOn name p) :
    ((b.sendAll p p.role.outbound ps).backlog q).length ≤ (b.backlog q).length + ps.length := by
  rcases h.session?_sendAll_cases hp ps q with hq | ⟨-, hq⟩
  · rw [backlog_congr hq]
    exact Nat.le_add_right _ _
  · cases hs : b.session? q with
    | none =>
        rw [hs] at hq
        simp [backlog, hq]
    | some s =>
        rw [hs] at hq
        rw [backlog_of_session? hq, backlog_of_session? hs]
        exact Session.length_backlog_pushAll_le_add

/-- Where something waited or was sent something waits. -/
theorem backlog_sendAll_ne_nil (h : b.Open name) (hp : IsOn name p)
    (hs : (b.session? p).isSome = true) (hs' : (b.session? (p.peer name)).isSome = true)
    (hne : b.backlog (p.peer name) ≠ [] ∨ ps ≠ []) :
    (b.sendAll p p.role.outbound ps).backlog (p.peer name) ≠ [] := by
  obtain ⟨s, hs'⟩ := Option.isSome_iff_exists.mp hs'
  have hpeer := (h.joins.session?_sendAll_push hp h.available ps).2
  rw [if_pos hs, hs'] at hpeer
  rw [backlog_of_session? hs'] at hne
  rw [backlog_of_session? hpeer]
  exact Session.backlog_pushAll_ne_nil h.roomy hne

end Sending

theorem length_backlog_le (h : b.Open name) (q : Party) : (b.backlog q).length ≤ b.capacity := by
  cases hs : b.session? q with
  | none => simp [backlog, hs]
  | some s =>
      rw [backlog_of_session? hs]
      exact h.within hs

/-- A session that gives its oldest payload. -/
theorem pop (h : b.Open name) {x : Payload} (hg : b.Gives p (.payload x) b') :
    b'.Open name ∧ (∃ rest, b.backlog p = x :: rest ∧ b'.backlog p = rest) ∧
      (∀ q, q ≠ p → b'.backlog q = b.backlog q) ∧
      ∀ q, (b'.session? q).isSome = (b.session? q).isSome := by
  obtain ⟨s, rest, hs, hb, rfl⟩ := hg.payload
  have hself := session?_setSession_self hs (some { s with backlog := rest })
  have hother : ∀ q, q ≠ p →
      (b.setSession p (some { s with backlog := rest })).session? q = b.session? q :=
    fun q hq => session?_setSession_of_ne hq _ b
  refine ⟨?_, ⟨rest, (backlog_of_session? hs).trans hb, backlog_of_session? hself⟩,
    fun q hq => backlog_congr (hother q hq), fun q => ?_⟩
  · refine h.congr rfl rfl (roster_setSession p _ b) rfl rfl ?_
    intro q t ht
    by_cases hq : q = p
    · rw [hq, hself] at ht
      cases ht
      have hseen := h.current hs
      have hlen := h.within hs
      rw [hb] at hlen
      exact ⟨hseen, Nat.le_of_succ_le hlen⟩
    · exact h.session (hother q hq ▸ ht)
  · by_cases hq : q = p
    · rw [hq, hself, hs]
      rfl
    · rw [hother q hq]

end Open

end Broker

end QuoteBridge
