import QuoteBridge.Proofs.Bus.Traffic

/-!
# Outages at a broker

What the listener of a session is told of the outages of its broker.

**One session.**  The log behind the opening of a session is the life of the session up to the next
opening at the same endpoint.  A session ends when it is closed, when another one is opened in its
place, or when its forwarder has handled an outage.

**Results.**
* `Traced.calls_life`: a listener receives payloads, then perhaps the loss of the connection, then
  nothing more.
* `Traced.struck_of_told`, `Traced.told_of_struck`: it is told of a loss exactly if an outage struck
  the session and the session was not closed before its forwarder handled that.
* `told_once`: both for every run, with what an endpoint can do afterwards.
-/

namespace QuoteBridge

/-- The call of a listener for what its session has for it. -/
def Inbound.call : Inbound → Except BusError Payload
  | .payload p => .ok p
  | .lost => .error .connectionLost

namespace Traffic

variable {κ : Type} [DecidableEq κ]

section Lives

/-- Whether an entry opens a session of an endpoint. -/
def Event.opens (k : κ) : Event κ → Bool
  | .opened k' _ => k' = k
  | _ => false

/-- Whether the broker went down. -/
def Event.isDown : Event κ → Bool
  | .down => true
  | _ => false

/-- What happens from the opening of a session to the next opening at the same endpoint. -/
def life (k : κ) (after : List (Event κ)) : List (Event κ) :=
  after.takeWhile (fun x => !x.opens k)

/-- The call of a listener of an endpoint that an entry stands for. -/
def Event.call? (k : κ) : Event κ → Option (Except BusError Payload)
  | .handed k' what true => if k' = k then some what.call else none
  | _ => none

/-- The calls of the listeners of an endpoint. -/
def calls (k : κ) (log : List (Event κ)) : List (Except BusError Payload) :=
  log.filterMap (Event.call? k)

/-- A session caused the loss of the connection to be told. -/
def Told (k : κ) (after : List (Event κ)) : Prop :=
  .error .connectionLost ∈ calls k (life k after)

/-- The broker went down while a session was open. -/
def Struck (k : κ) (after : List (Event κ)) : Prop :=
  ∃ part rest, after = part ++ .down :: rest ∧ ∀ x ∈ part, x.ends k = false

/-- A session was closed, by itself or by an opening in its place, before its forwarder had handled
an outage. -/
def Closed (k : κ) (after : List (Event κ)) : Prop :=
  ∃ part x rest, after = part ++ x :: rest ∧ (∀ y ∈ part, y.ends k = false) ∧
    (x = .closed k ∨ x.opens k = true)

variable {k : κ}

@[simp] theorem calls_append (log log' : List (Event κ)) :
    calls k (log ++ log') = calls k log ++ calls k log' :=
  List.filterMap_append

theorem Event.ends_of_opens {x : Event κ} (h : x.opens k = true) : x.ends k = true := by
  cases x with
  | opened k' l => exact h
  | _ => simp [opens] at h

theorem Event.opens_eq_false_of_ends {x : Event κ} (h : x.ends k = false) :
    x.opens k = false :=
  Bool.eq_false_iff.mpr (fun ho => by simp [ends_of_opens ho] at h)

theorem Event.concerns_of_ends {x : Event κ} (h : x.ends k = true) (ch : Channel) :
    x.concerns k ch = true := by
  cases x with
  | opened k' l => exact h
  | closed k' => exact h
  | handed k' what heard =>
      cases what with
      | payload p => simp [ends] at h
      | lost => exact h
  | _ => simp [ends] at h

theorem Event.openAfter_of_ends {x : Event κ} (he : x.ends k = true) (ho : x.opens k = false)
    (before : Bool) : x.openAfter k before = false := by
  cases x with
  | opened k' l =>
      simp only [ends, opens] at he ho
      simp [he] at ho
  | _ => simp [openAfter, he]

theorem Event.openAfter_of_shut {x : Event κ} (ho : x.opens k = false) :
    x.openAfter k false = false := by
  cases x with
  | opened k' l => simpa [openAfter, opens] using ho
  | _ => simp [openAfter]

theorem foldl_openAfter_of_shut {log : List (Event κ)} (h : ∀ x ∈ log, x.opens k = false) :
    log.foldl (Event.openAfter k) false = false := by
  induction log with
  | nil => rfl
  | cons x log ih =>
      rw [List.foldl_cons, Event.openAfter_of_shut (h x List.mem_cons_self)]
      exact ih (fun y hy => h y (List.mem_cons_of_mem x hy))

theorem calls_eq_nil {log : List (Event κ)}
    (h : ∀ what heard, Event.handed k what heard ∉ log) : calls k log = [] := by
  refine List.filterMap_eq_nil_iff.mpr (fun x hx => ?_)
  cases x with
  | handed k' what heard =>
      have hne : k' ≠ k := by
        rintro rfl
        exact h what heard hx
      cases heard <;> simp [Event.call?, hne]
  | _ => rfl

/-- The life of a session goes on to its end, and behind that to the next opening. -/
theorem life_cases (k : κ) (after : List (Event κ)) :
    ((∀ x ∈ after, x.ends k = false) ∧ life k after = after) ∨
      ∃ span x rest, after = span ++ x :: rest ∧ (∀ y ∈ span, y.ends k = false) ∧
        x.ends k = true ∧ ((x.opens k = true ∧ life k after = span) ∨
          (x.opens k = false ∧ life k after = span ++ x :: life k rest)) := by
  have hspan : ∀ {span : List (Event κ)}, (∀ y ∈ span, y.ends k = false) →
      ∀ y ∈ span, (!y.opens k) = true := by
    intro span h y hy
    rw [Event.opens_eq_false_of_ends (h y hy)]
    rfl
  cases hend : after.find? (fun x => x.ends k) with
  | none =>
      have hall : ∀ x ∈ after, x.ends k = false := by simpa using hend
      have hlife : (after ++ []).takeWhile (fun x => !x.opens k) = after ++ [] :=
        List.takeWhile_append_of_pos (hspan hall)
      exact Or.inl ⟨hall, by simpa [life] using hlife⟩
  | some x =>
      obtain ⟨hx, span, rest, rfl, hbefore⟩ := List.find?_eq_some_iff_append.mp hend
      have hall : ∀ y ∈ span, y.ends k = false := by simpa using hbefore
      refine Or.inr ⟨span, x, rest, rfl, hall, hx, ?_⟩
      rw [life, List.takeWhile_append_of_pos (hspan hall)]
      cases ho : x.opens k with
      | true => exact Or.inl ⟨rfl, by simp [ho]⟩
      | false => exact Or.inr ⟨rfl, by simp [ho, life]⟩

end Lives

section OneSession

variable {k : κ} {ch : Channel} {capacity : Nat} {log before after span rest : List (Event κ)}
variable {v : View} {l : Option Nat}

/-- What an open session has seen of the outages, and what its listener was told. -/
structure Watches (k : κ) (v : View) (l : Option Nat) (s : Session) (span : List (Event κ)) :
    Prop where
  listener : s.listener = l
  counted : s.outagesSeen + span.countP Event.isDown = v.outages
  quiet : ∃ ps : List Payload, calls k span = ps.map .ok

theorem Watches.aside {v' : View} {s s' : Session} {x : Event κ} (h : Watches k v l s span)
    (hl : s'.listener = s.listener) (ho : s'.outagesSeen = s.outagesSeen)
    (hv : v'.outages = v.outages) (hx : x.isDown = false)
    (hc : calls k [x] = [] ∨ ∃ p : Payload, calls k [x] = [.ok p]) :
    Watches k v' l s' (span ++ [x]) := by
  obtain ⟨ps, hps⟩ := h.quiet
  refine ⟨hl.trans h.listener, ?_, ?_⟩
  · rw [ho, hv, List.countP_append, ← h.counted]
    simp [hx]
  · rcases hc with hc | ⟨p, hc⟩
    · exact ⟨ps, by simp [hps, hc]⟩
    · exact ⟨ps ++ [p], by simp [hps, hc]⟩

/-- Every effect that leaves a session open keeps what it has seen. -/
theorem Watches.effect {v' : View} {s : Session} {es : List (Event κ)}
    (heff : Effect k ch capacity v es v') (hes : ∀ x ∈ es, x.ends k = false)
    (hs : v.session = some s) (h : Watches k v l s span) :
    ∃ s', v'.session = some s' ∧ Watches k v' l s' (span ++ es) := by
  cases heff with
  | quiet => exact ⟨s, hs, by simpa using h⟩
  | dismissed n =>
      rw [List.append_nil]
      exact ⟨s, hs, h.listener, h.counted, h.quiet⟩
  | @aside x hx =>
      have hdown : x.isDown = false := by
        cases x with
        | down => simp [Event.concerns] at hx
        | _ => rfl
      have hcalls : calls k [x] = [] := by
        refine calls_eq_nil (fun what heard hmem => ?_)
        rw [← List.mem_singleton.mp hmem] at hx
        simp [Event.concerns] at hx
      exact ⟨s, hs, h.aside rfl rfl rfl hdown (Or.inl hcalls)⟩
  | down =>
      refine ⟨s, hs, h.listener, ?_, ?_⟩
      · show _ = v.outages + 1
        rw [List.countP_append, ← h.counted, ← Nat.add_assoc]
        rfl
      · obtain ⟨ps, hps⟩ := h.quiet
        exact ⟨ps, by rw [calls_append, hps]; exact List.append_nil _⟩
  | opened l' => simp [Event.ends] at hes
  | closed => simp [Event.ends] at hes
  | accepted k' p =>
      exact ⟨s.push capacity p, by rw [hs]; rfl, h.aside rfl rfl rfl rfl (Or.inl rfl)⟩
  | @took s₁ p rest hs₁ hb =>
      obtain rfl : s₁ = s := Option.some.inj (hs₁.symm.trans hs)
      refine ⟨_, rfl, h.aside rfl rfl rfl rfl ?_⟩
      cases hears v.gone s₁.listener with
      | true => exact Or.inr ⟨p, by simp [calls, Event.call?, Inbound.call]⟩
      | false => exact Or.inl rfl
  | lost hs₁ ho => simp [Event.ends] at hes

theorem Traced.watches (h : Traced k ch capacity log v) (hlog : log = before ++ .opened k l :: span)
    (hspan : ∀ x ∈ span, x.ends k = false) :
    ∃ s, v.session = some s ∧ Watches k v l s span :=
  h.live_induction (P := fun v l s span => Watches k v l s span)
    (fun _ _ _ => ⟨rfl, rfl, [], rfl⟩) Watches.effect hlog hspan

/-- Behind the end of a session there is none until the next opening. -/
theorem Traced.session_eq_none {x : Event κ} (h : Traced k ch capacity log v)
    (hlog : log = before ++ x :: after) (he : x.ends k = true) (ho : x.opens k = false)
    (hafter : ∀ y ∈ after, y.opens k = false) : v.session = none := by
  have hopen : isOpen k log = false := by
    rw [isOpen, hlog, List.foldl_append, List.foldl_cons, Event.openAfter_of_ends he ho]
    exact foldl_openAfter_of_shut hafter
  simpa [hopen] using h.isSome_session

/-- Behind the end of a session nothing is handed to a listener until the next opening. -/
theorem Traced.calls_eq_nil {x : Event κ} (h : Traced k ch capacity log v)
    (hlog : log = before ++ x :: after) (he : x.ends k = true) (ho : x.opens k = false)
    (hafter : ∀ y ∈ after, y.opens k = false) : calls k after = [] := by
  refine Traffic.calls_eq_nil (fun what heard hmem => ?_)
  obtain ⟨part, rest, rfl⟩ := List.append_of_mem hmem
  have hsplit : log = (before ++ x :: part) ++ .handed k what heard :: rest := by
    simpa using hlog
  obtain ⟨v₁, v₂, h₁, heff, -⟩ := h.exists_of_entry hsplit
  have hnone := h₁.session_eq_none rfl he ho
    (fun y hy => hafter y (List.mem_append_left _ hy))
  cases heff with
  | aside hx => simp [Event.concerns] at hx
  | took hs hb => simp [hnone] at hs
  | lost hs ho => simp [hnone] at hs

theorem Traced.calls_life_eq_nil {x : Event κ} (h : Traced k ch capacity log v)
    (hlog : log = before ++ x :: after) (he : x.ends k = true) (ho : x.opens k = false) :
    calls k (life k after) = [] := by
  have hcut : log = (before ++ x :: life k after) ++ after.dropWhile (fun y => !y.opens k) := by
    rw [List.append_assoc, List.cons_append, life, List.takeWhile_append_dropWhile]
    exact hlog
  obtain ⟨v₁, h₁, -⟩ := (hcut ▸ h).exists_of_append
  refine h₁.calls_eq_nil rfl he ho (fun y hy => ?_)
  simpa using List.all_eq_true.mp List.all_takeWhile y hy

/-- What the listener was told when a session ended, and what the session had seen then. -/
theorem Traced.end_cases {x : Event κ} (h : Traced k ch capacity log v)
    (hlog : log = before ++ .opened k l :: (span ++ x :: rest))
    (hspan : ∀ y ∈ span, y.ends k = false) (he : x.ends k = true) :
    x = .closed k ∨ x.opens k = true ∨
      .down ∈ span ∧ ∃ gone, gone ⊆ v.gone ∧ x = .handed k .lost (hears gone l) := by
  have hsplit : log = (before ++ .opened k l :: span) ++ x :: rest := by simpa using hlog
  obtain ⟨v₁, v₂, h₁, heff, hgone⟩ := h.exists_of_entry hsplit
  obtain ⟨s, hs, hw⟩ := h₁.watches rfl hspan
  cases heff with
  | aside hx => simp [Event.concerns_of_ends he] at hx
  | down => simp [Event.ends] at he
  | opened l' => exact Or.inr (Or.inl (by simp [Event.opens]))
  | closed => exact Or.inl rfl
  | accepted k' p => simp [Event.ends] at he
  | took hs₁ hb => simp [Event.ends] at he
  | @lost s₁ hs₁ ho =>
      obtain rfl : s₁ = s := Option.some.inj (hs₁.symm.trans hs)
      have hcount : 0 < span.countP Event.isDown := by
        have := hw.counted
        omega
      obtain ⟨y, hy, hdown⟩ := List.countP_pos_iff.mp hcount
      refine Or.inr (Or.inr ⟨?_, v₁.gone, hgone, by rw [hw.listener]⟩)
      cases y with
      | down => exact hy
      | _ => simp [Event.isDown] at hdown

/-- What became of a session, and what its listener was told.  It is still open, or it was closed,
or its forwarder has handled an outage that struck it. -/
theorem Traced.outcome (h : Traced k ch capacity log v)
    (hlog : log = before ++ .opened k l :: after) :
    ∃ ps : List Payload,
      (∀ x ∈ after, x.ends k = false) ∧ calls k (life k after) = ps.map .ok ∨
      Closed k after ∧ calls k (life k after) = ps.map .ok ∨
      ∃ span gone rest, after = span ++ .handed k .lost (hears gone l) :: rest ∧
        (∀ x ∈ span, x.ends k = false) ∧ .down ∈ span ∧ gone ⊆ v.gone ∧
        calls k (life k after) =
          ps.map .ok ++ if hears gone l then [.error .connectionLost] else [] := by
  rcases life_cases k after with ⟨hall, hlife⟩ | ⟨span, x, rest, rfl, hall, he, hlife⟩
  · obtain ⟨s, -, hw⟩ := h.watches hlog hall
    obtain ⟨ps, hps⟩ := hw.quiet
    exact ⟨ps, Or.inl ⟨hall, by rw [hlife, hps]⟩⟩
  · have hsplit : log = (before ++ .opened k l :: span) ++ (x :: rest) := by simpa using hlog
    obtain ⟨v₁, h₁, -⟩ := (hsplit ▸ h).exists_of_append
    obtain ⟨s, -, hw⟩ := h₁.watches rfl hall
    obtain ⟨ps, hps⟩ := hw.quiet
    rcases hlife with ⟨ho, hlife⟩ | ⟨ho, hlife⟩
    · exact ⟨ps, Or.inr (Or.inl ⟨⟨span, x, rest, rfl, hall, Or.inr ho⟩, by rw [hlife, hps]⟩)⟩
    · have hcalls : calls k (life k (span ++ x :: rest)) = ps.map .ok ++ calls k [x] := by
        rw [hlife, List.append_cons, calls_append, calls_append, hps,
          h.calls_life_eq_nil hsplit he ho, List.append_nil]
      rcases h.end_cases hlog hall he with rfl | hopens | ⟨hdown, gone, hgone, rfl⟩
      · refine ⟨ps, Or.inr (Or.inl ⟨⟨span, _, rest, rfl, hall, Or.inl rfl⟩, ?_⟩)⟩
        rw [hcalls]
        exact List.append_nil _
      · simp [ho] at hopens
      · refine ⟨ps, Or.inr (Or.inr ⟨span, gone, rest, rfl, hall, hdown, hgone, ?_⟩)⟩
        rw [hcalls]
        cases hears gone l <;> simp [calls, Event.call?, Inbound.call]

/-- A listener receives payloads, then perhaps the loss of the connection, then nothing more. -/
theorem Traced.calls_life (h : Traced k ch capacity log v)
    (hlog : log = before ++ .opened k l :: after) :
    ∃ ps : List Payload, calls k (life k after) = ps.map .ok ∨
      calls k (life k after) = ps.map .ok ++ [.error .connectionLost] := by
  obtain ⟨ps, ⟨-, hc⟩ | ⟨-, hc⟩ | ⟨span, gone, rest, -, -, -, -, hc⟩⟩ := h.outcome hlog
  · exact ⟨ps, Or.inl hc⟩
  · exact ⟨ps, Or.inl hc⟩
  · cases hheard : hears gone l with
    | true => exact ⟨ps, Or.inr (by simpa [hheard] using hc)⟩
    | false => exact ⟨ps, Or.inl (by simpa [hheard] using hc)⟩

theorem not_told_of_quiet {ps : List Payload} (h : calls k (life k after) = ps.map .ok) :
    ¬ Told k after := by
  simp [Told, h]

theorem not_closed_of_lost {heard : Bool} (hspan : ∀ x ∈ span, x.ends k = false) :
    ¬ Closed k (span ++ .handed k .lost heard :: rest) := by
  rintro ⟨part, x, rest', heq, hpart, hx⟩
  have hends : x.ends k = true := by
    rcases hx with rfl | hx
    · simp [Event.ends]
    · exact Event.ends_of_opens hx
  have hlost : (span ++ .handed k .lost heard :: rest).find? (fun y => y.ends k) =
      some (.handed k .lost heard) :=
    List.find?_eq_some_iff_append.mpr
      ⟨by simp [Event.ends], span, rest, rfl, by simpa using hspan⟩
  have hfirst : (part ++ x :: rest').find? (fun y => y.ends k) = some x :=
    List.find?_eq_some_iff_append.mpr ⟨hends, part, rest', rfl, by simpa using hpart⟩
  rw [heq, hfirst] at hlost
  cases hlost
  simp [Event.opens] at hx

/-- A loss is told for an outage that struck the session, and only if the session was not closed
before that was handled. -/
theorem Traced.struck_of_told (h : Traced k ch capacity log v)
    (hlog : log = before ++ .opened k l :: after) (ht : Told k after) :
    Struck k after ∧ ¬ Closed k after := by
  obtain ⟨ps, ⟨-, hc⟩ | ⟨-, hc⟩ | ⟨span, gone, rest, rfl, hspan, hdown, -, -⟩⟩ := h.outcome hlog
  · exact absurd ht (not_told_of_quiet hc)
  · exact absurd ht (not_told_of_quiet hc)
  · obtain ⟨part, more, rfl⟩ := List.append_of_mem hdown
    refine ⟨⟨part, _, List.append_assoc part _ _, fun x hx => ?_⟩, not_closed_of_lost hspan⟩
    exact hspan x (List.mem_append_left _ hx)

/-- A session whose forwarder has nothing left to do told its listener of an outage that struck it. -/
theorem Traced.told_of_struck (h : Traced k ch capacity log v) {n : Nat}
    (hlog : log = before ++ .opened k (some n) :: after) (hn : n ∉ v.gone)
    (hidle : ∀ s, v.session = some s → (∀ x ∈ after, x.ends k = false) →
      s.take? v.outages .outages = none)
    (hstruck : Struck k after) (hopen : ¬ Closed k after) : Told k after := by
  obtain ⟨ps, ⟨hall, -⟩ | ⟨hclosed, -⟩ | ⟨span, gone, rest, -, -, -, hgone, hc⟩⟩ := h.outcome hlog
  · obtain ⟨s, hs, hw⟩ := h.watches hlog hall
    obtain ⟨part, more, rfl, -⟩ := hstruck
    have hseen : s.outagesSeen < v.outages := by
      have hcount := hw.counted
      simp only [List.countP_append, List.countP_cons, Event.isDown, if_true] at hcount
      omega
    have hnone := hidle s hs hall
    simp [Session.take?, hseen] at hnone
  · exact absurd hclosed hopen
  · have hheard : hears gone (some n) = true := hears_of_subset hgone (by simpa [hears] using hn)
    simp [Told, hc, hheard]

end OneSession

section Afterwards

variable {k : κ} {t : Traffic κ}

/-- The forwarder of a session has nothing left to do: the session has ended, or nothing waits. -/
def Done (k : κ) (t : Traffic κ) (after : List (Event κ)) : Prop :=
  (∃ x ∈ after, x.ends k = true) ∨ ∀ source, t.broker.take? k source = none

theorem Done.take?_eq_none {after : List (Event κ)} (h : Done k t after)
    (hopen : ∀ x ∈ after, x.ends k = false) {s : Session} (hs : (t.view k).session = some s) :
    s.take? (t.view k).outages .outages = none := by
  rcases h with ⟨x, hx, he⟩ | h
  · simp [hopen x hx] at he
  · have hs' : t.broker.session? k = some s := hs
    simpa [Broker.take?, hs', view] using h .outages

/-- An attempt to connect that fails changes nothing. -/
theorem perform_connect_of_error {f : BusError} (h : (t.broker.connect k).1 = .error f) :
    perform (.connect k) t = t := by
  rcases Broker.connect_cases k t.broker with ⟨hok, -⟩ | ⟨-, hb⟩
  · rw [hok] at h
    cases h
  · simp [perform, brokerAfter, goneAfter, events, h, hb]

/-- A broker that is down is not taken down again. -/
theorem perform_setAvailable_of_down (h : t.broker.available = false) :
    perform (.setAvailable false) t = t := by
  obtain ⟨⟨capacity, declared, available, outages, routed, lagged, endpoints⟩, gone, log⟩ := t
  cases (h : available = false)
  simp [perform, brokerAfter, goneAfter, events, Broker.setAvailable]

theorem isConnected_of_connect_ok (h : (t.broker.connect k).1 = .ok ()) :
    (perform (.connect k) t).broker.isConnected k = true := by
  obtain ⟨l, hl⟩ := Broker.session?_connect_of_ok h
  simp [perform, brokerAfter, Broker.isConnected_eq, hl]

/-- Why an endpoint without a session cannot send. -/
theorem send_of_not_connected {b : Broker κ} {e : Endpoint} (he : b.endpoint? k = some e)
    (h : b.isConnected k = false) (ch : Channel) (p : Payload) :
    b.send k ch p = (.error (if ch = e.role.outbound then .notReady
      else .failure (e.role.label ++ " endpoint cannot send on " ++ ch.name)), b) := by
  have hs : e.session = none := by simpa [Broker.isConnected, he] using h
  by_cases hc : ch = e.role.outbound
  · simp [Broker.send, he, hs, ← hc]
  · simp [Broker.send, he, hc]

end Afterwards

section Runs

/-- For every run of endpoints at a broker that has just been made, with calls, outages and turns of
the forwarders in any order.

The listener of a session is told of the loss of the connection at most once, as the last thing, and
only if the broker went down behind the opening and the session was not closed before its forwarder
handled that.  A listener that is there is told in each such case, as soon as the forwarder has
nothing left to do.  Taking down a broker that is down changes nothing.  When an endpoint has lost
its connection it cannot send until it has connected again; an attempt to connect that fails changes
nothing, and one that succeeds opens a session. -/
theorem told_once (n : Nat) (places : List (Place κ)) (acts : List (Act κ)) {k : κ} {e : Endpoint}
    (he : (run acts (start n places)).broker.endpoint? k = some e) :
    let t := run acts (start n places)
    (∀ before l after, t.log = before ++ .opened k l :: after →
      (∃ ps : List Payload, calls k (life k after) = ps.map .ok ∨
        calls k (life k after) = ps.map .ok ++ [.error .connectionLost]) ∧
      (Told k after → Struck k after ∧ ¬ Closed k after) ∧
      (∀ m, l = some m → m ∉ t.gone → Done k t after →
        (Told k after ↔ Struck k after ∧ ¬ Closed k after))) ∧
    (t.broker.available = false → perform (.setAvailable false) t = t) ∧
    (∀ before heard after, t.log = before ++ .handed k .lost heard :: after →
      (∀ x ∈ after, x.opens k = false) → t.broker.isConnected k = false ∧
        ∀ ch p, t.broker.send k ch p = (.error (if ch = e.role.outbound then .notReady
          else .failure (e.role.label ++ " endpoint cannot send on " ++ ch.name)), t.broker)) ∧
    (∀ k' f, (t.broker.connect k').1 = .error f → perform (.connect k') t = t) ∧
    ((t.broker.connect k).1 = .ok () → (perform (.connect k) t).broker.isConnected k = true) := by
  intro t
  have htraced : Traced k e.role.inbound t.broker.capacity t.log (t.view k) := traced_run he
  refine ⟨fun before l after hlog => ⟨htraced.calls_life hlog, htraced.struck_of_told hlog, ?_⟩,
    perform_setAvailable_of_down, fun before heard after hlog hafter => ?_,
    fun k' f => perform_connect_of_error, isConnected_of_connect_ok⟩
  · rintro m rfl hm hdone
    refine ⟨htraced.struck_of_told hlog, fun ⟨hstruck, hopen⟩ => ?_⟩
    exact htraced.told_of_struck hlog hm
      (fun s hs hall => hdone.take?_eq_none hall hs) hstruck hopen
  · have hnone : t.broker.session? k = none :=
      htraced.session_eq_none hlog (by simp [Event.ends]) rfl hafter
    have hconnected : t.broker.isConnected k = false := by simp [Broker.isConnected_eq, hnone]
    exact ⟨hconnected, send_of_not_connected he hconnected⟩

/-- An adapter's endpoint connects, and the broker goes down twice before the forwarder turns. -/
def demoOutage : List (Act Nat) :=
  [.declare "q", .declare "t", .listen 1 7, .connect 1, .setAvailable false, .setAvailable false,
    .setAvailable true, .setAvailable false, .forward 1 .outages]

/-- The run of the demonstration. -/
def demoStruck : Traffic Nat := run demoOutage (start 2 demoPlaces)

/-- The demonstration: the loss is told once, and the endpoint is without a session. -/
theorem told_once_demo :
    demoStruck.log = [.opened 1 (some 7), .down, .down, .handed 1 .lost true] ∧
      ¬ Closed 1 [.down, .down, .handed 1 .lost true] ∧
      perform (.setAvailable false) demoStruck = demoStruck ∧
      demoStruck.broker.send 1 .requests .empty = (.error .notReady, demoStruck.broker) ∧
      perform (.connect 1) demoStruck = demoStruck := by
  have he : demoStruck.broker.endpoint? 1 = some ⟨.adapter, "q", "t", some 7, none⟩ := rfl
  obtain ⟨hsession, hdown, hlost, hconnect, -⟩ := told_once 2 demoPlaces demoOutage he
  have hlog : demoStruck.log = [.opened 1 (some 7), .down, .down, .handed 1 .lost true] := rfl
  obtain ⟨-, -, htold⟩ := hsession [] _ _ hlog
  have hdone : Done 1 demoStruck [.down, .down, .handed 1 .lost true] :=
    Or.inl ⟨.handed 1 .lost true, by simp, rfl⟩
  have hclosed := ((htold 7 rfl (by decide) hdone).mp
    (show _ ∈ [Except.error BusError.connectionLost] from List.mem_singleton.mpr rfl)).2
  obtain ⟨-, hsend⟩ := hlost [.opened 1 (some 7), .down, .down] true [] hlog (by simp)
  exact ⟨hlog, hclosed, hdown rfl, hsend .requests .empty, hconnect 1 _ rfl⟩

/-- On the channel that it listens to such an endpoint fails for another reason. -/
theorem failure_after_loss :
    ¬ ∀ (n : Nat) (places : List (Place Nat)) (acts : List (Act Nat)) (k : Nat) (e : Endpoint),
      (run acts (start n places)).broker.endpoint? k = some e →
      ∀ before heard after,
        (run acts (start n places)).log = before ++ .handed k .lost heard :: after →
        (∀ x ∈ after, x.opens k = false) →
        ∀ ch p, ((run acts (start n places)).broker.send k ch p).1 = .error .notReady := by
  intro h
  have hsend := h 2 demoPlaces demoOutage 1 _ rfl [.opened 1 (some 7), .down, .down] true [] rfl
    (by simp) .updates .empty
  have hfailure : ((run demoOutage (start 2 demoPlaces)).broker.send 1 .updates .empty).1 =
      .error (.failure "adapter endpoint cannot send on Updates") := rfl
  rw [hfailure] at hsend
  cases hsend

end Runs

end Traffic
end QuoteBridge
