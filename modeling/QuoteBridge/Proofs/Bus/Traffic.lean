import QuoteBridge.Proofs.Adapter.Journal
import QuoteBridge.Proofs.Bus.Session

/-!
# Traffic at a broker

Runs of endpoints at one broker, and a log of what happens there.

**Acts.**  Every call of an endpoint, every change of the broker and every turn of a forwarder is one
act, and acts come in any order.  A forwarder that has a payload and an outage before it may turn to
either.  All endpoints are there from the beginning; one that comes later does nothing before.

**Listeners.**  A listener that has gone stays away, and what is handed to it is not heard.

**One endpoint.**  What concerns one endpoint is its session, the number of outages and the
listeners that have gone.  Whatever the other endpoints do, these change in few ways.

**Results.**
* `Traffic.perform_of_next?`: what a broker hands out by itself is the turn of a forwarder.
* `Traffic.effect_perform`: what an act does to what concerns one endpoint.
* `Traffic.traced_run`: a run is a series of such effects.
* `Traffic.Traced.live_induction`: what every effect keeps of an open session holds of it as long as
  it is open.
-/

namespace QuoteBridge

/-- An entry of the log.  What is handed to a listener that has gone is not heard. -/
inductive Traffic.Event (κ : Type)
  | opened (k : κ) (listener : Option Nat)
  | closed (k : κ)
  | down
  | sent (k : κ) (ch : Channel) (p : Payload) (answer : BusResult)
  | handed (k : κ) (what : Inbound) (heard : Bool)

/-- Endpoints at a broker, the listeners that have gone, and what has happened so far. -/
structure Traffic (κ : Type) where
  broker : Broker κ
  gone : List Nat
  log : List (Traffic.Event κ)

namespace Traffic

variable {κ : Type}

section Acts

/-- A name at the broker and the endpoint behind it. -/
structure Place (κ : Type) where
  name : κ
  role : Role
  queue : String
  topic : String

/-- Something that happens at a broker. -/
inductive Act (κ : Type)
  | declare (destination : String)
  | listen (k : κ) (listener : Nat)
  | dismiss (listener : Nat)
  | connect (k : κ)
  | reset (k : κ)
  | send (k : κ) (ch : Channel) (p : Payload)
  | setAvailable (value : Bool)
  | forward (k : κ) (source : Source)

variable [DecidableEq κ]

/-- Endpoints that have just been made, at a broker that has just been made. -/
def start (capacity : Nat) (places : List (Place κ)) : Traffic κ :=
  ⟨places.foldl (fun b p => b.join p.name (.create p.role p.queue p.topic)) (.create capacity),
    [], []⟩

/-- Whether a listener hears what it is handed. -/
def hears (gone : List Nat) (listener : Option Nat) : Bool :=
  listener.any (fun n => !gone.contains n)

/-- The broker after an act. -/
def brokerAfter : Act κ → Broker κ → Broker κ
  | .declare destination, b => b.declare destination
  | .listen k l, b => b.listen k l
  | .dismiss _, b => b
  | .connect k, b => (b.connect k).2
  | .reset k, b => b.reset k
  | .send k ch p, b => (b.send k ch p).2
  | .setAvailable value, b => b.setAvailable value
  | .forward k source, b => ((b.take? k source).map (·.2)).getD b

/-- What an act adds to the log. -/
def events : Act κ → Traffic κ → List (Event κ)
  | .connect k, t =>
      match (t.broker.connect k).1 with
      | .ok () => [.opened k ((t.broker.endpoint? k).bind (·.listener))]
      | .error _ => []
  | .reset k, _ => [.closed k]
  | .send k ch p, t => [.sent k ch p (t.broker.send k ch p).1]
  | .setAvailable value, t => if t.broker.available && !value then [.down] else []
  | .forward k source, t =>
      (t.broker.take? k source).toList.map (fun r => .handed k r.1.2 (hears t.gone r.1.1))
  | _, _ => []

/-- The listeners that have gone after an act. -/
def goneAfter : Act κ → List Nat → List Nat
  | .dismiss l, gone => l :: gone
  | _, gone => gone

def perform (act : Act κ) (t : Traffic κ) : Traffic κ :=
  ⟨brokerAfter act t.broker, goneAfter act t.gone, t.log ++ events act t⟩

/-- Performs acts in turn. -/
def run (acts : List (Act κ)) (t : Traffic κ) : Traffic κ :=
  acts.foldl (fun t act => perform act t) t

@[simp] theorem run_nil (t : Traffic κ) : run [] t = t := rfl

@[simp] theorem run_cons (act : Act κ) (acts : List (Act κ)) (t : Traffic κ) :
    run (act :: acts) t = run acts (perform act t) := rfl

/-- The turn of a forwarder changes one session, or nothing. -/
theorem brokerAfter_forward (k : κ) (source : Source) (b : Broker κ) :
    brokerAfter (.forward k source) b = b ∨
      ∃ s, brokerAfter (.forward k source) b = b.setSession k s := by
  simp only [brokerAfter]
  cases htake : b.take? k source with
  | none => exact Or.inl rfl
  | some r =>
      obtain ⟨s, -, hr⟩ := Option.bind_eq_some_iff.mp htake
      obtain ⟨x, -, rfl⟩ := Option.map_eq_some_iff.mp hr
      exact Or.inr ⟨x.2, rfl⟩

/-- What a broker hands out by itself is the turn of a forwarder. -/
theorem perform_of_next? {t : Traffic κ} (hd : (t.broker.roster.map (·.1)).Nodup) {k : κ}
    {l : Option Nat} {i : Inbound} {b : Broker κ} (h : t.broker.next? = some ((k, l, i), b)) :
    ∃ source heard, perform (.forward k source) t =
      ⟨b, t.gone, t.log ++ [.handed k i heard]⟩ := by
  obtain ⟨s, s', hs, hn, rfl⟩ := Broker.next?_eq_some hd h
  obtain ⟨source, htake⟩ := Session.exists_take?_of_next? hn
  refine ⟨source, hears t.gone s.listener, ?_⟩
  simp [perform, brokerAfter, goneAfter, events, Broker.take?, hs, htake]

end Acts

section Effects

/-- What concerns one endpoint. -/
structure View where
  session : Option Session
  outages : Nat
  gone : List Nat

/-- Whether an entry concerns an endpoint that listens to a channel. -/
def Event.concerns [DecidableEq κ] (k : κ) (ch : Channel) : Event κ → Bool
  | .opened k' _ => k' = k
  | .closed k' => k' = k
  | .down => true
  | .sent _ ch' _ (.ok ()) => ch' = ch
  | .sent _ _ _ (.error _) => false
  | .handed k' _ _ => k' = k

/-- What an act can do to what concerns an endpoint, and what it adds to the log. -/
inductive Effect [DecidableEq κ] (k : κ) (ch : Channel) (capacity : Nat) (v : View) :
    List (Event κ) → View → Prop
  | quiet : Effect k ch capacity v [] v
  | dismissed (n : Nat) : Effect k ch capacity v [] { v with gone := n :: v.gone }
  | aside {e : Event κ} (he : e.concerns k ch = false) : Effect k ch capacity v [e] v
  | down : Effect k ch capacity v [.down] { v with outages := v.outages + 1 }
  | opened (l : Option Nat) :
      Effect k ch capacity v [.opened k l] { v with session := some ⟨l, [], v.outages⟩ }
  | closed : Effect k ch capacity v [.closed k] { v with session := none }
  | accepted (k' : κ) (p : Payload) :
      Effect k ch capacity v [.sent k' ch p (.ok ())]
        { v with session := v.session.map (Session.push capacity p) }
  | took {s : Session} {p : Payload} {rest : List Payload} (hs : v.session = some s)
      (hb : s.backlog = p :: rest) :
      Effect k ch capacity v [.handed k (.payload p) (hears v.gone s.listener)]
        { v with session := some { s with backlog := rest } }
  | lost {s : Session} (hs : v.session = some s) (ho : s.outagesSeen < v.outages) :
      Effect k ch capacity v [.handed k .lost (hears v.gone s.listener)]
        { v with session := none }

variable [DecidableEq κ]

/-- What concerns an endpoint at the moment. -/
def view (k : κ) (t : Traffic κ) : View := ⟨t.broker.session? k, t.broker.outages, t.gone⟩

variable {t : Traffic κ} {k : κ} {e : Endpoint}

theorem effect_connect (he : t.broker.endpoint? k = some e) (k' : κ) :
    Effect k e.role.inbound t.broker.capacity (t.view k) (events (.connect k') t)
      ((perform (.connect k') t).view k) := by
  rcases Broker.connect_cases k' t.broker with ⟨hok, -, -, hb⟩ | ⟨⟨f, hf⟩, hb⟩
  · by_cases hk : k = k'
    · subst hk
      have hview : (perform (.connect k) t).view k =
          { t.view k with session := some ⟨e.listener, [], t.broker.outages⟩ } := by
        have hself : (t.broker.connect k).2.session? k =
            some ⟨e.listener, [], t.broker.outages⟩ := by
          rw [hb, Broker.session?, Broker.endpoint?_modifyEndpoint_self, he]
          rfl
        simp [view, perform, brokerAfter, goneAfter, hself, Broker.outages_connect]
      rw [hview]
      simp only [events, hok, he, Option.bind_some]
      exact .opened e.listener
    · have hview : (perform (.connect k') t).view k = t.view k := by
        simp [view, perform, brokerAfter, goneAfter, Broker.session?_connect_of_ne hk,
          Broker.outages_connect]
      rw [hview]
      simp only [events, hok]
      exact .aside (by simp [Event.concerns, Ne.symm hk])
  · simp only [events, hf, view, perform, brokerAfter, goneAfter, hb]
    exact .quiet

theorem effect_send (he : t.broker.endpoint? k = some e) (k' : κ) (ch : Channel) (p : Payload) :
    Effect k e.role.inbound t.broker.capacity (t.view k) (events (.send k' ch p) t)
      ((perform (.send k' ch p) t).view k) := by
  rcases Broker.send_cases k' ch p t.broker with ⟨hok, ha, -, hb⟩ | ⟨⟨f, hf⟩, hb⟩
  · have hview : (perform (.send k' ch p) t).view k =
        { t.view k with session :=
            if e.role.inbound = ch then
              (t.broker.session? k).map (Session.push t.broker.capacity p)
            else t.broker.session? k } := by
      simp [view, perform, brokerAfter, goneAfter, hb, Broker.session?_route_push ha he,
        Broker.outages_route]
    rw [hview]
    simp only [events, hok]
    by_cases hc : e.role.inbound = ch
    · subst hc
      rw [if_pos rfl]
      exact .accepted k' p
    · rw [if_neg hc]
      exact .aside (by simp [Event.concerns, Ne.symm hc])
  · simp only [events, hf, view, perform, brokerAfter, goneAfter, hb]
    exact .aside rfl

theorem effect_forward (k' : κ) (source : Source) (ch : Channel) :
    Effect k ch t.broker.capacity (t.view k) (events (.forward k' source) t)
      ((perform (.forward k' source) t).view k) := by
  cases htake : t.broker.take? k' source with
  | none =>
      simp only [events, view, perform, brokerAfter, goneAfter, htake]
      exact .quiet
  | some r =>
      obtain ⟨s, hs, hr⟩ := Option.bind_eq_some_iff.mp htake
      obtain ⟨⟨i, s'⟩, hi, rfl⟩ := Option.map_eq_some_iff.mp hr
      have hevents : events (.forward k' source) t =
          [.handed k' i (hears t.gone s.listener)] := by
        simp [events, htake]
      have hbroker : (perform (.forward k' source) t).view k =
          ⟨(t.broker.setSession k' s').session? k, t.broker.outages, t.gone⟩ := by
        simp [view, perform, brokerAfter, goneAfter, htake, Broker.setSession,
          Broker.modifyEndpoint]
      rw [hevents, hbroker]
      by_cases hk : k = k'
      · subst hk
        rw [Broker.session?_setSession_self hs]
        cases source with
        | payloads =>
            unfold Session.take? at hi
            cases hb : s.backlog with
            | nil => simp [hb] at hi
            | cons p rest =>
                simp only [hb, Option.some.injEq, Prod.mk.injEq] at hi
                obtain ⟨rfl, rfl⟩ := hi
                exact .took (v := t.view k) hs hb
        | outages =>
            obtain ⟨ho, hi⟩ := Option.ite_none_right_eq_some.mp hi
            cases hi
            exact .lost (v := t.view k) hs ho
      · rw [Broker.session?_setSession_of_ne hk]
        exact .aside (by simp [Event.concerns, Ne.symm hk])

/-- What an act does to what concerns one endpoint. -/
theorem effect_perform (he : t.broker.endpoint? k = some e) (act : Act κ) :
    Effect k e.role.inbound t.broker.capacity (t.view k) (events act t)
      ((perform act t).view k) := by
  cases act with
  | declare destination => exact .quiet
  | listen k' l =>
      have hview : (perform (.listen k' l) t).view k = t.view k := by
        simp [view, perform, brokerAfter, goneAfter, Broker.session?_listen]
        rfl
      rw [hview]
      exact .quiet
  | dismiss l => exact .dismissed l
  | connect k' => exact effect_connect he k'
  | reset k' =>
      by_cases hk : k = k'
      · subst hk
        have hview : (perform (.reset k) t).view k = { t.view k with session := none } := by
          simp [view, perform, brokerAfter, goneAfter]
          rfl
        rw [hview]
        exact .closed
      · have hview : (perform (.reset k') t).view k = t.view k := by
          simp [view, perform, brokerAfter, goneAfter, Broker.session?_reset_of_ne hk]
          rfl
        rw [hview]
        exact .aside (by simp [Event.concerns, Ne.symm hk])
  | send k' ch p => exact effect_send he k' ch p
  | setAvailable value =>
      cases hd : t.broker.available && !value with
      | false =>
          simp only [events, hd, view, perform, brokerAfter, goneAfter, Broker.setAvailable]
          exact .quiet
      | true =>
          simp only [events, hd, view, perform, brokerAfter, goneAfter, Broker.setAvailable]
          exact .down
  | forward k' source => exact effect_forward k' source e.role.inbound

end Effects

section Traces

variable [DecidableEq κ]

/-- Effects in turn, from the beginning: what was logged, and what concerns the endpoint then. -/
inductive Traced (k : κ) (ch : Channel) (capacity : Nat) : List (Event κ) → View → Prop
  | start : Traced k ch capacity [] ⟨none, 0, []⟩
  | step {log es : List (Event κ)} {v v' : View} (h : Traced k ch capacity log v)
      (heff : Effect k ch capacity v es v') : Traced k ch capacity (log ++ es) v'

variable {k : κ} {ch : Channel} {capacity : Nat}

theorem roster_perform (act : Act κ) (t : Traffic κ) :
    (perform act t).broker.roster = t.broker.roster := by
  cases act with
  | declare destination => rfl
  | listen k l => exact Broker.roster_listen k l t.broker
  | dismiss l => rfl
  | connect k => exact Broker.roster_connect k t.broker
  | reset k => exact Broker.roster_reset k t.broker
  | send k ch p => exact Broker.roster_send k ch p t.broker
  | setAvailable value => rfl
  | forward k source =>
      obtain hb | ⟨s, hb⟩ := brokerAfter_forward k source t.broker
      · exact congrArg Broker.roster hb
      · exact (congrArg Broker.roster hb).trans (Broker.roster_setSession k s t.broker)

theorem capacity_perform (act : Act κ) (t : Traffic κ) :
    (perform act t).broker.capacity = t.broker.capacity := by
  cases act with
  | connect k => exact Broker.capacity_connect k t.broker
  | send k ch p => exact Broker.capacity_send k ch p t.broker
  | forward k source =>
      obtain hb | ⟨s, hb⟩ := brokerAfter_forward k source t.broker <;>
        exact (congrArg Broker.capacity hb).trans rfl
  | _ => rfl

theorem roster_run (acts : List (Act κ)) (t : Traffic κ) :
    (run acts t).broker.roster = t.broker.roster := by
  induction acts generalizing t with
  | nil => rfl
  | cons act acts ih => exact (ih (perform act t)).trans (roster_perform act t)

theorem capacity_run (acts : List (Act κ)) (t : Traffic κ) :
    (run acts t).broker.capacity = t.broker.capacity := by
  induction acts generalizing t with
  | nil => rfl
  | cons act acts ih => exact (ih (perform act t)).trans (capacity_perform act t)

/-- Acts continue the trace of an endpoint. -/
theorem Traced.run {t : Traffic κ} {r : Role} (h : Traced k r.inbound capacity t.log (t.view k))
    (hc : t.broker.capacity = capacity) {e : Endpoint} (he : t.broker.endpoint? k = some e)
    (hr : e.role = r) (acts : List (Act κ)) :
    Traced k r.inbound capacity (run acts t).log ((run acts t).view k) := by
  induction acts generalizing t e with
  | nil => exact h
  | cons act acts ih =>
      have heff := effect_perform he act
      rw [hr, hc] at heff
      obtain ⟨e', he', hv⟩ := Broker.exists_endpoint?_of_roster_eq (roster_perform act t).symm he
      exact ih (h.step heff) ((capacity_perform act t).trans hc) he'
        ((Endpoint.role_of_vacant hv).trans hr)

theorem start_broker (n : Nat) (places : List (Place κ)) :
    (start n places).broker.capacity = Broker.powerOfTwo n ∧ (start n places).broker.outages = 0 ∧
      ∀ k, (start n places).broker.session? k = none := by
  have hjoin : ∀ (places : List (Place κ)) (b : Broker κ), (∀ x ∈ b.endpoints, x.2.session = none) →
      let b' := places.foldl (fun b p => b.join p.name (.create p.role p.queue p.topic)) b
      b'.capacity = b.capacity ∧ b'.outages = b.outages ∧
        ∀ x ∈ b'.endpoints, x.2.session = none := by
    intro places
    induction places with
    | nil => exact fun b hb => ⟨rfl, rfl, hb⟩
    | cons p places ih =>
        intro b hb
        refine ih _ (fun x hx => ?_)
        rcases List.mem_append.mp hx with hx | hx
        · exact hb x (List.mem_filter.mp hx).1
        · rw [List.mem_singleton.mp hx]
          rfl
  obtain ⟨hc, ho, hs⟩ := hjoin places (.create n) (by simp [Broker.create])
  refine ⟨hc, ho, fun k => ?_⟩
  cases hk : (start n places).broker.session? k with
  | none => rfl
  | some s =>
      obtain ⟨e, he, hes⟩ := Broker.endpoint?_isSome_of_session? hk
      obtain ⟨x, hx, rfl⟩ := Option.map_eq_some_iff.mp he
      have hnone := hs x (List.mem_of_find?_eq_some hx)
      rw [hes] at hnone
      cases hnone

/-- A run is a trace of each of its endpoints. -/
theorem traced_run {n : Nat} {places : List (Place κ)} {acts : List (Act κ)} {e : Endpoint}
    (he : (run acts (start n places)).broker.endpoint? k = some e) :
    Traced k e.role.inbound (run acts (start n places)).broker.capacity
      (run acts (start n places)).log ((run acts (start n places)).view k) := by
  obtain ⟨-, ho, hs⟩ := start_broker n places
  obtain ⟨e₀, he₀, hv⟩ :=
    Broker.exists_endpoint?_of_roster_eq (roster_run acts (start n places)) he
  have hstart : Traced k e.role.inbound (start n places).broker.capacity
      (start n places).log ((start n places).view k) := by
    have hview : (start n places).view k = ⟨none, 0, []⟩ := by
      rw [view, hs, ho]
      rfl
    rw [hview]
    exact .start
  rw [capacity_run]
  exact hstart.run rfl he₀ (Endpoint.role_of_vacant hv) acts

theorem Effect.events_cases {v v' : View} {es : List (Event κ)} (h : Effect k ch capacity v es v') :
    es = [] ∨ ∃ x, es = [x] := by
  cases h <;> simp

/-- A listener that hears has heard from the beginning. -/
theorem hears_of_subset {gone gone' : List Nat} (hg : gone ⊆ gone') {l : Option Nat}
    (h : hears gone' l = true) : hears gone l = true := by
  cases l with
  | none => exact h
  | some n =>
      have hn : n ∉ gone' := by simpa [hears] using h
      simpa [hears] using fun hmem => hn (hg hmem)

theorem Effect.gone_subset {v v' : View} {es : List (Event κ)} (h : Effect k ch capacity v es v') :
    v.gone ⊆ v'.gone := by
  cases h with
  | dismissed n => exact List.subset_cons_self n v.gone
  | _ => exact List.Subset.refl v.gone

/-- What concerned the endpoint when an entry was logged. -/
theorem Traced.exists_of_entry {log es es' : List (Event κ)} {x : Event κ} {v : View}
    (h : Traced k ch capacity log v) (hlog : log = es ++ x :: es') :
    ∃ v₁ v₂, Traced k ch capacity es v₁ ∧ Effect k ch capacity v₁ [x] v₂ ∧ v₁.gone ⊆ v.gone := by
  induction h generalizing es' with
  | start => simp at hlog
  | @step log new v v' h heff ih =>
      rcases heff.events_cases with rfl | ⟨y, rfl⟩
      · obtain ⟨v₁, v₂, h₁, h₂, hgone⟩ := ih (by simpa using hlog)
        exact ⟨v₁, v₂, h₁, h₂, List.Subset.trans hgone heff.gone_subset⟩
      · rcases concat_eq_append_cons hlog with ⟨rfl, rfl, -⟩ | ⟨rest, -, rfl⟩
        · exact ⟨v, v', h, heff, heff.gone_subset⟩
        · obtain ⟨v₁, v₂, h₁, h₂, hgone⟩ := ih rfl
          exact ⟨v₁, v₂, h₁, h₂, List.Subset.trans hgone heff.gone_subset⟩

/-- What concerned the endpoint when only the first entries were logged. -/
theorem Traced.exists_of_append {es es' : List (Event κ)} {v : View}
    (h : Traced k ch capacity (es ++ es') v) :
    ∃ v₁, Traced k ch capacity es v₁ ∧ v₁.gone ⊆ v.gone := by
  cases es' with
  | nil => exact ⟨v, by simpa using h, List.Subset.refl v.gone⟩
  | cons x es' =>
      obtain ⟨v₁, -, h₁, -, hgone⟩ := h.exists_of_entry rfl
      exact ⟨v₁, h₁, hgone⟩

end Traces

section Sessions

variable [DecidableEq κ]

/-- Whether an entry ends the session that an endpoint has. -/
def Event.ends (k : κ) : Event κ → Bool
  | .opened k' _ => k' = k
  | .closed k' => k' = k
  | .handed k' .lost _ => k' = k
  | _ => false

/-- Whether an endpoint has an open session behind an entry. -/
def Event.openAfter (k : κ) (before : Bool) : Event κ → Bool
  | .opened k' _ => k' = k || before
  | x => !x.ends k && before

/-- Whether an endpoint has an open session, as the log tells. -/
def isOpen (k : κ) (log : List (Event κ)) : Bool := log.foldl (Event.openAfter k) false

variable {k : κ} {ch : Channel} {capacity : Nat} {log : List (Event κ)} {v : View}

/-- The log tells whether an endpoint has an open session. -/
theorem Traced.isSome_session (h : Traced k ch capacity log v) :
    v.session.isSome = isOpen k log := by
  induction h with
  | start => rfl
  | @step log es v v' h heff ih =>
      rw [isOpen, List.foldl_append, ← isOpen, ← ih]
      cases heff with
      | quiet => rfl
      | dismissed n => rfl
      | @aside x he =>
          cases x with
          | opened k' l => simp_all [Event.concerns, Event.openAfter]
          | closed k' => simp_all [Event.concerns, Event.openAfter, Event.ends]
          | down => simp [Event.openAfter, Event.ends]
          | sent k' ch' p answer => simp [Event.openAfter, Event.ends]
          | handed k' what heard =>
              cases what <;> simp_all [Event.concerns, Event.openAfter, Event.ends]
      | down => simp [Event.openAfter, Event.ends]
      | opened l => simp [Event.openAfter]
      | closed => simp [Event.openAfter, Event.ends]
      | accepted k' p => simp [Event.openAfter, Event.ends]
      | took hs hb => simp [Event.openAfter, Event.ends, hs]
      | lost hs ho => simp [Event.openAfter, Event.ends]

/-- What holds of a session that was just opened, and is kept by every effect that leaves it open,
holds of it as long as it is open. -/
theorem Traced.live_induction {P : View → Option Nat → Session → List (Event κ) → Prop}
    (hopened : ∀ (v : View) l, v.session = some ⟨l, [], v.outages⟩ → P v l ⟨l, [], v.outages⟩ [])
    (hstep : ∀ {v v' : View} {l s span es}, Effect k ch capacity v es v' →
      (∀ x ∈ es, x.ends k = false) → v.session = some s → P v l s span →
        ∃ s', v'.session = some s' ∧ P v' l s' (span ++ es))
    (h : Traced k ch capacity log v) {before span : List (Event κ)} {l : Option Nat}
    (hlog : log = before ++ .opened k l :: span) (hspan : ∀ x ∈ span, x.ends k = false) :
    ∃ s, v.session = some s ∧ P v l s span := by
  -- by induction on the trace: the last entry opens the session or leaves it open
  induction h generalizing span with
  | start => simp at hlog
  | @step log es v v' h heff ih =>
      rcases heff.events_cases with rfl | ⟨x, rfl⟩
      · obtain ⟨s, hs, hP⟩ := ih (by simpa using hlog) hspan
        simpa using hstep heff (by simp) hs hP
      · rcases concat_eq_append_cons hlog with ⟨-, hx, rfl⟩ | ⟨rest, rfl, rfl⟩
        · subst hx
          cases heff with
          | aside he => simp [Event.concerns] at he
          | opened l => exact ⟨_, rfl, hopened { v with session := some ⟨l, [], v.outages⟩ } l rfl⟩
        · obtain ⟨s, hs, hP⟩ := ih rfl (fun y hy => hspan y (List.mem_append_left _ hy))
          exact hstep heff (fun y hy => hspan y (List.mem_append_right _ hy)) hs hP

end Sessions

/-- A generator's endpoint and two adapters' at the same destinations. -/
def demoPlaces : List (Place Nat) :=
  [⟨0, .generator, "q", "t"⟩, ⟨1, .adapter, "q", "t"⟩, ⟨2, .adapter, "q", "t"⟩]

end Traffic
end QuoteBridge
