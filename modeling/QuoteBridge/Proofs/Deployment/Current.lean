import QuoteBridge.Proofs.Adapter.Journal
import QuoteBridge.Proofs.Deployment.Agreement
import QuoteBridge.Proofs.Message.RoundTrip

/-!
# Live data is current

An update can be lost: at the gate, at a broker that is down, with a message that brings a new run,
or because its subscription has gone.  Each loss leaves a request for the subscription under way,
and the snapshot that answers it makes up for what was lost.

**Told.**  What a subscription is told are the calls made for it, and then the updates for it that
the adapter's session still holds.

**Results.**
* `Duo.current_kept`: while the feed is up, every subscription is asked for or the last thing that
  it is told is the market's current quote.
* `Deployment.last_call_is_current`: in a settled state with the feed up, the last call for every
  subscription has the current values, and its snapshot has come since the item was registered and
  since the last new producer run.
-/

namespace QuoteBridge

section Telling

/-- What an entry of the journal tells a subscription. -/
def Note.fieldsFor? {H : Type} (i : Item) (n : SubscriptionId) : Note H → Option Fields
  | .called c => if c.item = i ∧ c.id = n then some c.fields else none
  | _ => none

/-- What a message tells a subscription. -/
def Message.fieldsFor? (i : Item) (n : SubscriptionId) : Message → Option Fields
  | .update u => if u.item = i ∧ u.subscriptionId = n then some u.fields else none
  | .heartbeat _ => none

/-- Some notes tell of a snapshot for a subscription, and of no later registration of its item and
no later new producer run. -/
def Snapshotted {H : Type} (i : Item) (n : SubscriptionId) (ns : List (Note H)) : Prop :=
  ∃ before c after, ns = before ++ .called c :: after ∧ c.item = i ∧ c.id = n ∧
    c.kind = .snapshot ∧ c.isSnapshot = true ∧ ¬ Renews i after

variable {H : Type} {i : Item} {n : SubscriptionId}

theorem Snapshotted.append {ns ns' : List (Note H)} (h : Snapshotted i n ns)
    (hns : ¬ Renews i ns') : Snapshotted i n (ns ++ ns') := by
  obtain ⟨before, c, after, rfl, hi, hn, hk, hs, hafter⟩ := h
  refine ⟨before, c, after ++ ns', by simp, hi, hn, hk, hs, ?_⟩
  rw [renews_append, not_or]
  exact ⟨hafter, hns⟩

/-- The last thing that the notes tell a subscription is told by its last call. -/
theorem exists_lastCall {ns : List (Note H)} {fs : Fields}
    (h : (ns.filterMap (Note.fieldsFor? i n)).getLast? = some fs) :
    ∃ c, LastCall i n c ns ∧ c.fields = fs := by
  obtain ⟨told, htold⟩ := List.getLast?_eq_some_iff.mp h
  obtain ⟨before, rest, rfl, -, hrest⟩ := List.filterMap_eq_append_iff.mp htold
  obtain ⟨silent, note, after, rfl, -, hnote, hafter⟩ := List.filterMap_eq_cons_iff.mp hrest
  cases note with
  | subscribed j m => cases hnote
  | heard t e b => cases hnote
  | called c =>
      simp only [Note.fieldsFor?, Option.ite_none_right_eq_some, Option.some.injEq] at hnote
      refine ⟨c, ⟨before ++ silent, after, by simp, hnote.1.1, hnote.1.2, fun c' hc' hfor => ?_⟩,
        hnote.2⟩
      have hnone := List.filterMap_eq_nil_iff.mp hafter _ hc'
      simp [Note.fieldsFor?, hfor] at hnone

/-- Messages without an update of an item tell its subscription nothing. -/
theorem Message.filterMap_fieldsFor? {ms : List Message} (h : ∀ u, .update u ∈ ms → u.item ≠ i) :
    ms.filterMap (fieldsFor? i n) = [] := by
  refine List.filterMap_eq_nil_iff.mpr (fun m hm => ?_)
  cases m with
  | heartbeat e => rfl
  | update u => simp [fieldsFor?, h u hm]

/-- The adapter reads the octets of messages as those messages. -/
theorem Message.filterMap_decode_encode (ms : List Message) :
    (ms.map encode).filterMap decode = ms := by
  induction ms with
  | nil => rfl
  | cons m ms ih => rw [List.map_cons, List.filterMap_cons, decode_encode, ih]

end Telling

namespace Duo

/-- What the adapter's session holds for a subscription. -/
def coming (i : Item) (n : SubscriptionId) (x : Duo) : List Fields :=
  ((x.bus.backlog .adapter).filterMap Message.decode).filterMap (Message.fieldsFor? i n)

/-- What a subscription is told, by calls that were made and by updates that wait. -/
def told (i : Item) (n : SubscriptionId) (x : Duo) : List Fields :=
  x.scene.journal.toList.filterMap (Note.fieldsFor? i n) ++ x.coming i n

/-- A subscription gets the events of its item, and the last thing that it is told is the current
quote. -/
structure Supplied (i : Item) (sub : Subscription String) (x : Duo) : Prop where
  passes : x.generator.gate.tenure? i = some ⟨sub.id, true⟩
  latest : (x.told i sub.id).getLast? = some (x.generator.market.values i)
  claimed : x.coming i sub.id ≠ [] ∨ sub.snapshotSent = true

/-- A subscription is asked for or supplied, and if its snapshot was claimed it was given out. -/
structure Tended (name : String) (i : Item) (sub : Subscription String) (x : Duo) : Prop where
  supplied : .subscribe i sub.id ∈ x.underWay name ∨ x.Supplied i sub
  given : sub.snapshotSent = true → Snapshotted i sub.id x.scene.journal.toList

/-- While the feed is up every subscription is tended. -/
structure Current (name : String) (x : Duo) : Prop where
  agreed : x.Agreed name 0
  tended : x.Fed → ∀ {i sub}, x.adapter.book.subscriptions.get? i = some sub →
    x.Tended name i sub

variable {name : String} {x y : Duo} {i : Item} {sub : Subscription String}

theorem coming_congr (h : y.bus.backlog .adapter = x.bus.backlog .adapter) (i : Item)
    (n : SubscriptionId) : y.coming i n = x.coming i n := by
  rw [coming, h, coming]

namespace Tended

/-- A step that tells a subscription nothing, and leaves what the generator has for it. -/
theorem frame (h : x.Tended name i sub) (ns : List (Note String))
    (hj : y.scene.journal.toList = x.scene.journal.toList ++ ns) (hns : ¬ Renews i ns)
    (hcalls : ns.filterMap (Note.fieldsFor? i sub.id) = [])
    (hc : y.coming i sub.id = x.coming i sub.id)
    (hu : .subscribe i sub.id ∈ x.underWay name → .subscribe i sub.id ∈ y.underWay name)
    (hg : y.generator.gate.tenure? i = x.generator.gate.tenure? i)
    (hm : y.generator.market.values i = x.generator.market.values i) : y.Tended name i sub := by
  have htold : y.told i sub.id = x.told i sub.id := by
    rw [told, hj, List.filterMap_append, hcalls, List.append_nil, hc, told]
  refine ⟨h.supplied.imp hu (fun hs => ⟨hg.trans hs.passes, ?_, ?_⟩), fun hsent => ?_⟩
  · rw [htold, hm]
    exact hs.latest
  · rw [hc]
    exact hs.claimed
  · rw [hj]
    exact (h.given hsent).append hns

/-- A subscription that is asked for. -/
theorem asked (h : x.Tended name i sub) (hj : y.scene.journal = x.scene.journal)
    (hu : .subscribe i sub.id ∈ y.underWay name) : y.Tended name i sub := by
  refine ⟨Or.inl hu, fun hsent => ?_⟩
  rw [hj]
  exact h.given hsent

end Tended

section Publishing

/-- The generator changes and publishes messages. -/
def published (name : String) (g : Generator) (ms : List Message) (m : Metrics) (x : Duo) : Duo :=
  x.emit (g, { x.scene with
    bus := x.bus.sendAll (.generator name) .updates (ms.map Message.encode), metrics := m })

variable {g : Generator} {ms : List Message} {m : Metrics}

theorem fed_of_published (g : Generator) (ms : List Message) (m : Metrics)
    (h : (x.published name g ms m).Fed) : x.Fed :=
  ⟨h.1, (Broker.available_sendAll _ x.bus).symm.trans h.2⟩

theorem underWay_published (h : x.Sound name)
    (hl : (x.published name g ms m).bus.lagged = x.bus.lagged) :
    (x.published name g ms m).underWay name = x.underWay name := by
  exact underWay_congr (Broker.Joins.session?_sendAll .generator h.line.joins hl).1 rfl

/-- What is published while the feed is up waits for the adapter. -/
theorem coming_published (h : x.Sound name) (hf : x.Fed)
    (hl : (x.published name g ms m).bus.lagged = x.bus.lagged) (n : SubscriptionId) :
    (x.published name g ms m).coming i n =
      x.coming i n ++ ms.filterMap (Message.fieldsFor? i n) := by
  obtain ⟨ha, hg⟩ := h.known hf.1
  have hback := Broker.Joins.backlog_sendAll .generator h.line.joins hf.2 (hg hf.2) ha hl
  refine (congrArg (fun ps => (ps.filterMap Message.decode).filterMap
    (Message.fieldsFor? i n)) hback).trans ?_
  rw [List.filterMap_append, Message.filterMap_decode_encode, List.filterMap_append]
  rfl

/-- When the generator publishes, a subscription that was supplied is sent nothing and its quote
stays, or it is sent the current quote. -/
theorem Tended.published (h : x.Sound name) (hf : x.Fed)
    (hl : (x.published name g ms m).bus.lagged = x.bus.lagged)
    (hgiven : sub.snapshotSent = true → Snapshotted i sub.id x.scene.journal.toList)
    (hs : .subscribe i sub.id ∈ x.underWay name ∨
      (x.Supplied i sub ∧ g.gate.tenure? i = x.generator.gate.tenure? i ∧
        g.market.values i = x.generator.market.values i ∧
          ms.filterMap (Message.fieldsFor? i sub.id) = []) ∨
      g.gate.tenure? i = some ⟨sub.id, true⟩ ∧
        ms.filterMap (Message.fieldsFor? i sub.id) = [g.market.values i]) :
    (x.published name g ms m).Tended name i sub := by
  have hcoming := coming_published (i := i) h hf hl sub.id
  rcases hs with hasked | ⟨hsup, hgate, hvalues, hnone⟩ | ⟨hgate, hone⟩
  · have hx : x.Tended name i sub := ⟨Or.inl hasked, hgiven⟩
    exact hx.asked rfl ((underWay_published h hl).symm ▸ hasked)
  · have hx : x.Tended name i sub := ⟨Or.inr hsup, hgiven⟩
    rw [hnone, List.append_nil] at hcoming
    exact hx.frame [] (List.append_nil _).symm (Agreed.not_renews_nil i) rfl hcoming
      (fun hu => (underWay_published h hl).symm ▸ hu) hgate hvalues
  · refine ⟨Or.inr ⟨hgate, ?_, Or.inl ?_⟩, hgiven⟩
    · rw [told, hcoming, hone, ← List.append_assoc]
      exact List.getLast?_concat
    · rw [hcoming, hone]
      simp

end Publishing

section Hearing

/-- What the adapter's session held for a subscription before its oldest payload was taken. -/
theorem coming_pop {s : Session} (hs : x.bus.session? .adapter = some s) {p : Payload}
    {rest : List Payload} (hb : s.backlog = p :: rest)
    (hy : y.bus = x.bus.setSession .adapter (some { s with backlog := rest })) (i : Item)
    (n : SubscriptionId) :
    x.coming i n =
      ((Message.decode p).bind (Message.fieldsFor? i n)).toList ++ y.coming i n := by
  have hself := Broker.session?_setSession_self hs (some { s with backlog := rest })
  rw [coming, coming, hy, Broker.backlog_of_session? hself, Broker.backlog_of_session? hs, hb]
  cases hm : Message.decode p with
  | none => simp [hm]
  | some msg => cases hf : msg.fieldsFor? i n <;> simp [hm, hf]

/-- What the adapter gets takes no request from the generator. -/
theorem underWay_pop {s : Option Session} (hy : y.bus = x.bus.setSession .adapter s)
    (hp : y.adapter.book.pending = x.adapter.book.pending) :
    y.underWay name = x.underWay name := by
  refine underWay_congr ?_ hp
  rw [hy]
  exact Broker.session?_setSession_of_ne (by simp) s x.bus

/-- A payload that is no update for a subscription takes nothing from it. -/
theorem Tended.heard (h : x.Tended name i sub) {s : Session}
    (hs : x.bus.session? .adapter = some s) {p : Payload} {rest : List Payload}
    (hb : s.backlog = p :: rest)
    (hy : y.bus = x.bus.setSession .adapter (some { s with backlog := rest }))
    (hp : (Message.decode p).bind (Message.fieldsFor? i sub.id) = none)
    (ns : List (Note String))
    (hj : y.scene.journal.toList = x.scene.journal.toList ++ ns) (hns : ¬ Renews i ns)
    (hcalls : ns.filterMap (Note.fieldsFor? i sub.id) = [])
    (hpending : y.adapter.book.pending = x.adapter.book.pending)
    (hg : y.generator = x.generator) : y.Tended name i sub := by
  have hway : y.underWay name = x.underWay name := underWay_pop hy hpending
  have hcoming := coming_pop hs hb hy i sub.id
  rw [hp] at hcoming
  exact h.frame ns hj hns hcalls hcoming.symm (fun hask => hway.symm ▸ hask) (by rw [hg])
    (by rw [hg])

/-- An update that waited becomes a call. -/
theorem Tended.called {kind : DeliveryKind} (h : x.Tended name i sub) {s : Session}
    (hs : x.bus.session? .adapter = some s) {p : Payload} {rest : List Payload}
    (hb : s.backlog = p :: rest)
    (hy : y.bus = x.bus.setSession .adapter (some { s with backlog := rest })) {u : Update}
    (hp : Message.decode p = some (.update u)) (hi : u.item = i)
    (hid : u.subscriptionId = sub.id) {t : Nat}
    (hkind : kind = if sub.snapshotSent then .delta else .snapshot)
    (hj : y.scene.journal.toList = x.scene.journal.toList ++ [.heard t u.epoch false,
      .called ⟨t, i, sub.id, kind, sub.handle, u.fields, !sub.snapshotSent⟩])
    (hpending : y.adapter.book.pending = x.adapter.book.pending)
    (hg : y.generator = x.generator) :
    y.Tended name i { sub with snapshotSent := true } := by
  have hcoming := coming_pop hs hb hy i sub.id
  have hfor : (Message.decode p).bind (Message.fieldsFor? i sub.id) = some u.fields := by
    simp [hp, Message.fieldsFor?, hi, hid]
  rw [hfor] at hcoming
  have htold : y.told i sub.id = x.told i sub.id := by
    simp [told, hj, hcoming, List.filterMap_cons, Note.fieldsFor?]
  have hway : y.underWay name = x.underWay name := underWay_pop hy hpending
  refine ⟨h.supplied.imp (fun hask => hway.symm ▸ hask)
    (fun hsup => ⟨by rw [hg]; exact hsup.passes, ?_, Or.inr rfl⟩), fun _ => ?_⟩
  · show (y.told i sub.id).getLast? = _
    rw [htold, hg]
    exact hsup.latest
  · rw [hj]
    cases hsent : sub.snapshotSent with
    | true => exact (h.given hsent).append (by simp [Renews])
    | false =>
        refine ⟨x.scene.journal.toList ++ [.heard t u.epoch false], _, [], by simp; rfl, rfl, rfl,
          by simp [hkind, hsent], by simp, Agreed.not_renews_nil i⟩

end Hearing

section Answering

/-- Once all requests under way are handled, the generator knows every subscription. -/
theorem Agreed.id?_impending (h : x.Agreed name 0) (hf : x.Fed)
    (hsub : x.adapter.book.subscriptions.get? i = some sub) :
    (x.impending name).id? i = some sub.id := by
  have hid := h.covered hf.1 hf.2 (i := i) (Or.inl (h.sound.announced hf.1))
  rw [Book.id?, hsub] at hid
  exact hid

/-- The duo whose generator has taken the oldest payload of its session. -/
def handed (name : String) (s : Session) (x : Duo) : Duo :=
  { x with scene := x.taken (x.bus.setSession (.generator name) (some s)) }

/-- What the generator takes is not the adapter's. -/
theorem Supplied.handed (h : x.Supplied i sub) (s : Session) :
    (x.handed name s).Supplied i sub := by
  have hcoming : (x.handed name s).coming i sub.id = x.coming i sub.id :=
    coming_congr (Broker.backlog_congr (Broker.session?_setSession_of_ne (by simp) _ x.bus)) i _
  refine ⟨h.passes, ?_, hcoming.symm ▸ h.claimed⟩
  rw [told, hcoming]
  exact h.latest

/-- The oldest request under way is answered.  If a subscription is asked for no more, either the
request was for it and it is sent the current quote, or the request leaves it as it was. -/
theorem Tended.answer_cases (h : x.Tended name i sub) {r : Request} {s : Session}
    (hid : (x.impending name).id? i = some sub.id)
    (hway : x.underWay name = r :: (x.handed name s).underWay name) :
    .subscribe i sub.id ∈ (x.handed name s).underWay name ∨
      ((x.handed name s).Supplied i sub ∧
        (x.generator.answers r).1.gate.tenure? i = x.generator.gate.tenure? i ∧
          (x.generator.answers r).1.market.values i = x.generator.market.values i ∧
            (x.generator.answers r).2.filterMap (Message.fieldsFor? i sub.id) = []) ∨
      (x.generator.answers r).1.gate.tenure? i = some ⟨sub.id, true⟩ ∧
        (x.generator.answers r).2.filterMap (Message.fieldsFor? i sub.id) =
          [(x.generator.answers r).1.market.values i] := by
  by_cases hask : .subscribe i sub.id ∈ (x.handed name s).underWay name
  · exact Or.inl hask
  · rw [impending, hway, Gate.applyAll_cons] at hid
    have hgate := (Gate.subscribe_mem_of_id?_applyAll hid).resolve_left hask
    by_cases hr : ∃ n, r = .subscribe i n
    · obtain ⟨n, rfl⟩ := hr
      rw [Gate.id?_apply_subscribe_self] at hgate
      cases hgate
      obtain ⟨ht, hm⟩ := Generator.answers_subscribe i sub.id x.generator
      refine Or.inr (Or.inr ⟨ht, ?_⟩)
      rw [hm, Generator.market_answers]
      simp [Message.fieldsFor?]
    · have hr : ∀ n, r ≠ .subscribe i n := fun n hn => hr ⟨n, hn⟩
      obtain ⟨ht, hm⟩ := Generator.answers_of_ne hr x.generator
      have hsame : (x.generator.gate.apply r).tenure? i = x.generator.gate.tenure? i := by
        rcases x.generator.gate.tenure?_apply_cases r i with ⟨n, hn⟩ | hsame | hnone
        · exact absurd hn (hr n)
        · exact hsame
        · rw [Gate.id?, hnone] at hgate
          cases hgate
      have hsup : x.Supplied i sub := by
        refine h.supplied.resolve_left (fun hold => ?_)
        rw [hway] at hold
        rcases List.mem_cons.mp hold with hhead | htail
        · exact hr sub.id hhead.symm
        · exact hask htail
      exact Or.inr (Or.inl ⟨hsup.handed s, ht.trans hsame,
        congrArg (fun m => m.values i) (Generator.market_answers r x.generator),
        Message.filterMap_fieldsFor? hm⟩)

end Answering

namespace Current

section Pieces

/-- Nothing is claimed of a duo whose feed is down. -/
theorem ofDrops (hy : y.Agreed name 0) (hd : Drops x y) : y.Current name :=
  ⟨hy, fun hf => absurd hf hd.down⟩

/-- A step that neither side notices. -/
theorem ofSame (h : x.Current name) (hy : y.Agreed name 0) (hf : y.Fed → x.Fed)
    (hj : y.scene.journal = x.scene.journal)
    (hs : y.adapter.book.subscriptions = x.adapter.book.subscriptions)
    (hb : y.bus.backlog .adapter = x.bus.backlog .adapter)
    (hu : y.underWay name = x.underWay name) (hg : y.generator.gate = x.generator.gate)
    (hm : y.generator.market = x.generator.market) : y.Current name := by
  refine ⟨hy, fun hfy i sub hsub => ?_⟩
  rw [hs] at hsub
  refine (h.tended (hf hfy) hsub).frame [] (by rw [hj, List.append_nil])
    (Agreed.not_renews_nil i) rfl (coming_congr hb i _) (fun hask => hu ▸ hask)
    (by rw [hg]) (by rw [hm])

theorem lookAdapter (h : x.Current name) {r : Adapter String × Scene (Broker Party) String}
    {ws done : List Watchdog} (hr : Adapter.watchFrom x.adapter x.scene done ws = some r) :
    (x.act r).Current name := by
  have hy := h.agreed.lookAdapter hr
  rcases Adapter.watchFrom_effect hr with ⟨ws, rfl⟩ | ⟨ws, rfl⟩
  · exact h.ofSame hy id rfl rfl rfl rfl rfl rfl
  · exact ofDrops hy (Sound.drops_degrade .producer ws)

/-- The generator publishes of its own accord. -/
theorem published {g : Generator} (ms : List Message) {m : Metrics} (h : x.Current name)
    (hy : (x.published name g ms m).Agreed name 0)
    (hl : (x.published name g ms m).bus.lagged = x.bus.lagged)
    (hs : ∀ {i sub}, x.Supplied i sub →
      (g.gate.tenure? i = x.generator.gate.tenure? i ∧
        g.market.values i = x.generator.market.values i ∧
          ms.filterMap (Message.fieldsFor? i sub.id) = []) ∨
      g.gate.tenure? i = some ⟨sub.id, true⟩ ∧
        ms.filterMap (Message.fieldsFor? i sub.id) = [g.market.values i]) :
    (x.published name g ms m).Current name := by
  refine ⟨hy, fun hf i sub hsub => ?_⟩
  have hfx := fed_of_published g ms m hf
  have ht := h.tended hfx hsub
  refine .published h.agreed.sound hfx hl ht.given ?_
  rcases ht.supplied with hasked | hsup
  · exact Or.inl hasked
  · rcases hs hsup with hsame | hnew
    · exact Or.inr (Or.inl ⟨hsup, hsame⟩)
    · exact Or.inr (Or.inr hnew)

theorem heartbeat (h : x.Current name) {hs : List Nat}
    (hp : Generator.postpone? x.scene.now x.generator.config.heartbeatInterval
      x.generator.heartbeats = some hs) {y : Duo}
    (hy : y = x.emit (Generator.publishHeartbeat (Broker.link (.generator name) 0)
      { x.generator with heartbeats := hs } x.scene))
    (hl : y.bus.lagged = x.bus.lagged) : y.Current name := by
  have hagreed := h.agreed.heartbeat hp hy hl
  obtain ⟨o, m, he⟩ := Generator.publishHeartbeat_effect (k := Party.generator name) (l := 0)
    { x.generator with heartbeats := hs } x.scene
  rw [he] at hy
  subst hy
  exact h.published [.heartbeat x.generator.epoch] hagreed hl
    (fun _ => Or.inl ⟨rfl, rfl, rfl⟩)

/-- A tick tells the subscription of the item that was traded, and no other quote moves. -/
theorem trade (h : x.Current name) {g : Generator} (hw : x.generator.wired = true)
    (hg : g.wired = x.generator.wired) (hr : g.released = x.generator.released)
    (hn : g.newest = x.generator.newest) (hv : g.supervisors = x.generator.supervisors)
    (hgate : g.gate = x.generator.gate) (hmarket : g.market = x.generator.market) {y : Duo}
    (hy : y = x.emit (Generator.tick (Broker.link (.generator name) 0) g x.scene).2)
    (hl : y.bus.lagged = x.bus.lagged) : y.Current name := by
  have hagreed := h.agreed.trade hw hg hr hn hv hgate hy hl
  obtain ⟨o, m, he⟩ := Generator.tick_effect (k := Party.generator name) (l := 0)
    (hg.trans hw) (hr.trans h.agreed.sound.generatorHeld) x.scene
  rw [he] at hy
  subst hy
  refine h.published _ hagreed hl (fun {i sub} hsup => ?_)
  have hpasses : g.gate.tenure? i = some ⟨sub.id, true⟩ := by rw [hgate]; exact hsup.passes
  by_cases hi : i = (g.market.tick x.scene.clock).1
  · subst hi
    refine Or.inr ⟨?_, ?_⟩
    · show (g.gate.pass (g.market.tick x.scene.clock).1 false).2.tenure? _ = _
      rw [g.gate.pass_of_sent hpasses]
      exact hpasses
    · rw [Generator.emits_of_sent (g := { g with market := (g.market.tick x.scene.clock).2 })
        (e := (g.market.tick x.scene.clock).2.tickEvent (g.market.tick x.scene.clock).1) hpasses]
      simp [Message.fieldsFor?, Market.tickEvent, Generator.passed]
  · refine Or.inl ⟨?_, ?_, Message.filterMap_fieldsFor? (fun u hu => ?_)⟩
    · rw [← hgate]
      exact Gate.tenure?_pass_of_ne g.gate hi false
    · rw [← hmarket]
      exact Generator.values_tick_of_ne hi
    · exact Generator.ne_item_of_mem_emits hu hi

theorem round (h : x.Current name) {y : Duo}
    (hy : y = x.act (Adapter.dispatchRound (Broker.link .adapter 0) x.adapter x.scene))
    (hl : y.bus.lagged = x.bus.lagged) : y.Current name := by
  have hagreed := h.agreed.round hy hl
  obtain ⟨o, m, he⟩ := Adapter.dispatchRound_effect (k := Party.adapter) (l := 0)
    h.agreed.sound.adapterHeld x.scene
  rw [he] at hy
  subst hy
  refine ⟨hagreed, fun hf i sub hsub => ?_⟩
  have hfx : x.Fed := ⟨hf.1, (Broker.available_sendAll _ x.bus).symm.trans hf.2⟩
  have hself := (Broker.Joins.session?_sendAll .adapter h.agreed.sound.line.joins hl).1
  have hcoming : (x.bus.sendAll .adapter .requests
      (x.adapter.book.pending.map Adapter.requestOctets)).backlog .adapter =
        x.bus.backlog .adapter := Broker.backlog_congr hself
  have hway := h.agreed.sound.underWay_round (a := { x.adapter with
    book := x.adapter.book.clearPending, outbox := o, rounds := x.adapter.rounds - 1 })
    (m := m) hfx rfl hl
  exact (h.tended hfx hsub).frame [] (List.append_nil _).symm (Agreed.not_renews_nil i)
    rfl (coming_congr hcoming i _) (fun hask => hway.symm ▸ hask) rfl rfl

/-- A new run starts the replay, which asks for every subscription; an update of the known run
becomes a call. -/
theorem adapterHears (h : x.Current name) {p : Payload} {b : Broker Party}
    (hn : x.bus.Gives .adapter (.payload p) b) :
    (x.act (Adapter.receive p x.adapter (x.taken b))).Current name := by
  have hy := h.agreed.adapterHears hn
  obtain ⟨s, rest, hs, hb, rfl⟩ := hn.payload
  have hav := h.agreed.sound.available_of_backlog hs hb
  generalize hr : Adapter.receive p x.adapter
    (x.taken (x.bus.setSession .adapter (some { s with backlog := rest }))) = r at hy ⊢
  cases hr ▸ Adapter.receive_effect p x.adapter
    (x.taken (x.bus.setSession .adapter (some { s with backlog := rest }))) with
  | ignored m hm =>
      refine ⟨hy, fun hf i sub hsub => ?_⟩
      exact (h.tended hf hsub).heard hs hb rfl (by rw [hm]; rfl) []
        (List.append_nil _).symm (Agreed.not_renews_nil i) rfl rfl rfl
  | anew msg m hm he =>
      refine ⟨hy, fun _ i sub hsub => ?_⟩
      obtain ⟨sub', hsub', rfl⟩ := Option.map_eq_some_iff.mp
        ((SortedMap.get?_map x.adapter.book.subscriptions _ i).symm.trans hsub)
      refine ⟨Or.inl (List.mem_append_right _ ?_), fun hsent => by cases hsent⟩
      exact Gate.subscribe_mem_replay (b := (x.adapter.book.observe msg.epoch).2) (s := sub') hsub'
  | known msg m hm he hu =>
      have hfx : x.Fed := ⟨by simp [he], hav⟩
      refine ⟨hy, fun _ i sub hsub => ?_⟩
      refine (h.tended hfx hsub).heard hs hb rfl ?_
        [.heard x.scene.now msg.epoch false] Array.toList_push
        (Agreed.not_renews_heard i _ _) rfl rfl rfl
      rw [hm]
      cases msg with
      | heartbeat e => rfl
      | update u =>
          refine if_neg (fun hfor => ?_)
          obtain ⟨rfl, hid⟩ := hfor
          exact hu u sub rfl hsub hid.symm
  | delivered u sub m hm he hsub hid =>
      have hfx : x.Fed := ⟨by simp [he], hav⟩
      refine ⟨hy, fun _ i sub' hsub' => ?_⟩
      have hsub' : (x.adapter.book.subscriptions.modify u.item
          (fun s => { s with snapshotSent := true })).get? i = some sub' := hsub'
      by_cases hi : i = u.item
      · subst hi
        rw [SortedMap.get?_modify_self, hsub] at hsub'
        cases hsub'
        exact (h.tended hfx hsub).called hs hb rfl hm rfl hid.symm (t := x.scene.now) rfl
          (by simp [act, taken]) rfl rfl
      · rw [SortedMap.get?_modify_of_ne _ hi] at hsub'
        exact (h.tended hfx hsub').heard hs hb rfl (by simp [hm, Message.fieldsFor?, Ne.symm hi])
          [.heard x.scene.now u.epoch false, .called _] (by simp [act, taken]; rfl)
          (by simp [Renews]) (by simp [Note.fieldsFor?, Ne.symm hi]) rfl rfl

/-- The request that the generator takes is answered. -/
theorem generatorHears (h : x.Current name) {p : Payload} {b : Broker Party}
    (hn : x.bus.Gives (.generator name) (.payload p) b) {y : Duo}
    (hy : y = x.emit (Generator.receive (Broker.link (.generator name) 0) p x.generator
      (x.taken b)))
    (hl : y.bus.lagged = x.bus.lagged) : y.Current name := by
  have hagreed := h.agreed.generatorHears hn hy hl
  obtain ⟨s, rest, hs, hb, rfl⟩ := hn.payload
  have hw := h.agreed.sound.wired_of_session? hs
  have hrest : (x.handed name { s with backlog := rest }).bus.backlog (.generator name) = rest :=
    Broker.backlog_of_session? (Broker.session?_setSession_self hs _)
  have hback : x.bus.backlog (.generator name) = p :: rest :=
    (Broker.backlog_of_session? hs).trans hb
  have hz : (x.handed name { s with backlog := rest }).Sound name := h.agreed.sound.pop hs hb
  rcases Generator.receive_effect (k := Party.generator name) (l := 0) hw
    h.agreed.sound.generatorHeld p
    (x.taken (x.bus.setSession (.generator name) (some { s with backlog := rest }))) with
    ⟨hp, m, he⟩ | ⟨r, hp, o, m, he⟩
  · have hway : (x.handed name { s with backlog := rest }).underWay name = x.underWay name := by
      rw [underWay, hrest, underWay, hback, List.filterMap_cons, hp]
      rfl
    rw [he] at hy
    subst hy
    exact h.ofSame hagreed id rfl rfl
      (Broker.backlog_congr (Broker.session?_setSession_of_ne (by simp) _ x.bus)) hway rfl rfl
  · have hway : x.underWay name =
        r :: (x.handed name { s with backlog := rest }).underWay name := by
      rw [underWay, hback, List.filterMap_cons, hp, underWay, hrest]
      rfl
    rw [he] at hy
    subst hy
    refine ⟨hagreed, fun hf i sub hsub => ?_⟩
    have hfz : (x.handed name { s with backlog := rest }).Fed :=
      fed_of_published { (x.generator.answers r).1 with outbox := o } (x.generator.answers r).2 m hf
    have hfx : x.Fed := hfz
    have hx := h.tended hfx hsub
    exact .published (x := x.handed name { s with backlog := rest }) hz hfz hl hx.given
      (hx.answer_cases (h.agreed.id?_impending hfx hsub) hway)

theorem piece (h : x.Current name) {y : Duo} (hp : Piece name x y)
    (hl : y.bus.lagged = x.bus.lagged) : y.Current name := by
  cases hp with
  | adapterDials place r hr =>
      have hvs := (List.take_append_drop place x.adapter.supervisors).symm
      exact ofDrops (h.agreed.dialAdapter hvs hr) (h.agreed.sound.drops_dialAdapter hvs hr)
  | adapterLooks place r hr => exact h.lookAdapter hr
  | generatorDials place r hr =>
      have hvs := (List.take_append_drop place x.generator.supervisors).symm
      exact ofDrops (h.agreed.dialGenerator hvs hr) (h.agreed.sound.drops_dialGenerator hvs hr)
  | heartbeat hs hp => exact h.heartbeat hp rfl hl
  | trade ts hp =>
      exact h.trade (g := { x.generator with ticks := ts })
        (h.agreed.sound.wired_of_trade hp) rfl rfl rfl rfl rfl rfl rfl hl
  | round hr => exact h.round rfl hl
  | adapterHears p b hn => exact h.adapterHears hn
  | adapterLoses b hn =>
      exact ofDrops (h.agreed.adapterLoses hn) (Sound.drops_adapterLoses b)
  | generatorHears p b hn => exact h.generatorHears hn rfl hl
  | generatorLoses b hn =>
      exact ofDrops (h.agreed.generatorLoses hn) (h.agreed.sound.drops_generatorLoses hn)

end Pieces

section Moves

/-- A new subscription is asked for, and it takes no other one's place but its own. -/
theorem subscribes (h : x.Current name) {r : Adapter String × Scene (Broker Party) String}
    (hr : Adapter.Subscribes x.adapter x.scene r) : (x.act r).Current name := by
  have hy := h.agreed.subscribes hr
  cases hr with
  | refused => exact h
  | idle i handle subs m notes he hc => exact ⟨hy, fun hf => absurd hf (not_fed_of_epoch? he)⟩
  | requested i handle he =>
      refine ⟨hy, fun hf j sub hsub => ?_⟩
      have hsub : (x.adapter.book.subscriptions.insert i
          ⟨x.adapter.book.nextId, handle, false⟩).get? j = some sub := hsub
      by_cases hj : j = i
      · subst hj
        rw [SortedMap.get?_insert_self] at hsub
        cases hsub
        refine ⟨Or.inl ?_, fun hsent => by cases hsent⟩
        refine mem_underWay_push (x := x) ?_ ?_ (Or.inr rfl) <;> rfl
      · rw [SortedMap.get?_insert_of_ne _ hj] at hsub
        refine (h.tended hf hsub).frame [.subscribed i x.adapter.book.nextId]
          Array.toList_push (by simp [Renews, hj]) rfl rfl (fun hask => ?_) rfl rfl
        refine mem_underWay_push (r := .subscribe i x.adapter.book.nextId) ?_ ?_
          (Or.inl hask) <;> rfl

theorem unsubscribes (h : x.Current name) {a : Adapter String}
    (ha : Adapter.Unsubscribes x.adapter a) :
    ({ x with adapter := a } : Duo).Current name := by
  have hy := h.agreed.unsubscribes ha
  cases ha with
  | refused => exact h
  | idle i he => exact ⟨hy, fun hf => absurd hf (not_fed_of_epoch? he)⟩
  | requested i old he hs =>
      refine ⟨hy, fun hf j sub hsub => ?_⟩
      have hsub : (x.adapter.book.subscriptions.erase i).get? j = some sub := hsub
      have hj : j ≠ i := by
        rintro rfl
        rw [SortedMap.get?_erase_self] at hsub
        cases hsub
      rw [SortedMap.get?_erase_of_ne _ hj] at hsub
      refine (h.tended hf hsub).frame [] (List.append_nil _).symm
        (Agreed.not_renews_nil j) rfl rfl (fun hask => ?_) rfl rfl
      refine mem_underWay_push (r := .unsubscribe i old.id) ?_ ?_ (Or.inl hask) <;> rfl

theorem move (h : x.Current name) (m : Move) (hi : Idle name x)
    (hl : (x.move name m).bus.lagged = x.bus.lagged) : (x.move name m).Current name := by
  have hy := h.agreed.move m hi hl
  cases m with
  | subscribe item handle =>
      exact h.subscribes (Adapter.subscribe_effect item handle x.adapter x.scene)
  | unsubscribe item => exact h.unsubscribes (Adapter.unsubscribe_effect item x.adapter)
  | sleep span => exact h
  | clock seconds => exact h.ofSame hy id rfl rfl rfl rfl rfl rfl
  | tick =>
      by_cases hw : x.generator.wired = true
      · exact h.trade hw rfl rfl rfl rfl rfl rfl rfl hl
      · refine ⟨hy, fun hf => ?_⟩
        have hw := Bool.eq_false_iff.mpr hw
        have hsame : x.move name .tick = x.emit (Generator.tick
          (Broker.link (.generator name) 0) x.generator x.scene).2 := rfl
        rw [hsame, Generator.tick_of_unwired hw] at hf
        have hopen := (h.agreed.sound.known hf.1).2 hf.2
        rw [(h.agreed.sound.unwired hw).2.2.2] at hopen
        cases hopen
  | available value =>
      refine h.ofSame hy (fun hf => ?_) rfl rfl rfl rfl rfl rfl
      exact ⟨hf.1, h.agreed.sound.available_of_up hi hf.1⟩

end Moves

end Current

/-- While the feed is up, every subscription is asked for or the last thing that it is told is the
market's current quote. -/
theorem current_kept (name : String) : Kept name (Current name) where
  piece _ _ h hp hl := h.piece hp hl
  time _ _ h := h.ofSame { h.agreed with sound := { h.agreed.sound with } } id rfl rfl rfl rfl
    rfl rfl
  move _ m h hi hl := h.move m hi hl
  startAdapter x h _ hz := h.ofSame (h.agreed.startAdapter hz) id rfl rfl
    (Broker.backlog_congr (Broker.session?_listen Party.adapter .adapter 0 x.bus))
    (underWay_congr (Broker.session?_listen Party.adapter (.generator name) 0 x.bus) rfl) rfl rfl
  startGenerator x h _ hf := h.ofSame (h.agreed.startGenerator hf) id rfl rfl
    (Broker.backlog_congr (Broker.session?_listen (Party.generator name) .adapter 0 x.bus))
    (underWay_congr (Broker.session?_listen (Party.generator name) (.generator name) 0 x.bus) rfl)
    rfl rfl

/-- A duo whose parties were only just made has no feed. -/
theorem Current.ofFresh (h : x.Sound name) (ha : ∃ c, Adapter.create c = .ok x.adapter) :
    x.Current name := by
  obtain ⟨c, hc⟩ := ha
  have hepoch : x.adapter.epoch? = none := by
    rw [Adapter.epoch?, (adapter_of_create hc).2.2.2]
    rfl
  exact ⟨.ofFresh h ⟨c, hc⟩, fun hf => absurd hf (not_fed_of_epoch? hepoch)⟩

/-- In an idle duo a tended subscription was told the current quote by its last call. -/
theorem Tended.lastCall_of_idle (h : x.Tended name i sub) (hs : x.Sound name) (hi : Idle name x) :
    (∃ c, LastCall i sub.id c x.scene.journal.toList ∧
        c.fields = x.generator.market.values i) ∧
      Snapshotted i sub.id x.scene.journal.toList := by
  have hcoming : x.coming i sub.id = [] := by
    cases hsession : x.bus.session? .adapter with
    | none => simp [coming, Broker.backlog, hsession]
    | some s =>
        have hb := (Broker.next?_eq_none (Option.map_eq_none_iff.mp hi.bus) hsession).1
        rw [coming, Broker.backlog_of_session? hsession, hb]
        rfl
  have hsup : x.Supplied i sub := by
    refine h.supplied.resolve_left (fun hask => ?_)
    rw [(underWay_of_idle hs hi).1] at hask
    cases hask
  have hlatest := hsup.latest
  rw [told, hcoming, List.append_nil] at hlatest
  exact ⟨exists_lastCall hlatest, h.given (hsup.claimed.resolve_left (fun hne => hne hcoming))⟩

end Duo

namespace Deployment

variable {name : String} {d₀ d : Deployment (Broker Party)} {a : Adapter String} {g : Generator}

/-- In every settled state of a run in which nothing lagged and the feed is up, the last call for
every subscription has the current values of its item, and a snapshot was given to it since its
item was last registered and since the last new producer run. -/
theorem last_call_is_current (h₀ : d₀.Fresh name) (hr : Run name d₀ d) (h : d.Feeds name a g)
    {i : Item} {sub : Subscription String} (hsub : a.book.subscriptions.get? i = some sub) :
    (∃ c, LastCall i sub.id c d.scene.journal.toList ∧ c.fields = g.market.values i) ∧
      Snapshotted i sub.id d.scene.journal.toList := by
  obtain ⟨x₀, rfl, hj, hnone, hca, hcg, -⟩ := Duo.exists_of_fresh h₀
  have hstart : Duo.Holds name (Duo.Current name) (x₀.deploy name) :=
    ⟨x₀, rfl, hj, fun _ => .ofFresh (.ofFresh hj hnone hca hcg) hca⟩
  obtain ⟨x, hx, hi, he, rfl, rfl, rfl⟩ :=
    (Duo.current_kept name).exists_of_feeds hstart hr h
  have hf : x.Fed := ⟨he, hx.agreed.sound.available_of_up hi he⟩
  exact (hx.tended hf hsub).lastCall_of_idle hx.agreed.sound hi

/-- The demonstration with one subscription. -/
theorem last_call_is_current_demo :
    ∃ a g i sub, demoFed.Feeds "g" a g ∧ a.book.subscriptions.get? i = some sub ∧
      (∃ c, LastCall i sub.id c demoFed.scene.journal.toList ∧ c.fields = g.market.values i) ∧
        Snapshotted i sub.id demoFed.scene.journal.toList := by
  obtain ⟨a, g, h, hn⟩ := demoFed_feeds
  have hpos : 0 < a.book.subscriptions.entries.length := by
    rw [show a.book.subscriptions.entries.length = 1 from hn]
    decide
  obtain ⟨⟨i, sub⟩, hmem⟩ := List.exists_mem_of_length_pos hpos
  have hsub := (a.book.subscriptions.mem_entries_iff).mp hmem
  exact ⟨a, g, i, sub, h, hsub, last_call_is_current demo_fresh demoFed_run h hsub⟩

end Deployment

end QuoteBridge
