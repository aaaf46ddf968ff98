import QuoteBridge.Proofs.Deployment.Sound
import QuoteBridge.Proofs.Gate.Replay
import QuoteBridge.Proofs.Request.RoundTrip

/-!
# Agreement of the two registries

The requests under way bring the generator's registry to the adapter's, item by item.

**Under way.**  A request is under way while it is in the generator's session or waits to be sent.

**Coverage.**  The generator's registry is followed from some point of the adapter's journal at
which it was empty.  An item is covered once a new producer run was heard since then, as that
replays every subscription, or once the item itself was registered.

**Results.**
* `Duo.agreed_kept`: once all requests under way are handled, the generator knows the covered items
  as the adapter does, and no others.
* `Deployment.registries_agree`: in a settled state with the feed up the two registries are equal.
-/

namespace QuoteBridge

/-- The notes tell of a new producer run or of a registration of the item. -/
def Renews {H : Type} (i : Item) (ns : List (Note H)) : Prop :=
  (∃ t e, .heard t e true ∈ ns) ∨ ∃ n, .subscribed i n ∈ ns

theorem renews_append {H : Type} {i : Item} {ns ns' : List (Note H)} :
    Renews i (ns ++ ns') ↔ Renews i ns ∨ Renews i ns' := by
  simp only [Renews, List.mem_append, exists_or]
  exact or_or_or_comm

/-- The generator reads the payloads of a dispatch round as the requests that were sent. -/
theorem Generator.filterMap_readRequest (rs : List Request) :
    (rs.map Adapter.requestOctets).filterMap readRequest = rs := by
  induction rs with
  | nil => rfl
  | cons r rs ih =>
      rw [List.map_cons, List.filterMap_cons, Adapter.requestOctets, readRequest_text, ih]

namespace Duo

/-- The requests under way to the generator, the oldest first. -/
def underWay (name : String) (x : Duo) : List Request :=
  (x.bus.backlog (.generator name)).filterMap Generator.readRequest ++ x.adapter.book.pending

/-- The generator's registry once it has handled the requests under way. -/
def impending (name : String) (x : Duo) : Gate :=
  x.generator.gate.applyAll (x.underWay name)

section UnderWay

variable {name : String} {x y : Duo}

theorem underWay_congr
    (hs : y.bus.session? (.generator name) = x.bus.session? (.generator name))
    (hp : y.adapter.book.pending = x.adapter.book.pending) : y.underWay name = x.underWay name := by
  rw [underWay, Broker.backlog_congr hs, hp, underWay]

/-- A request that waits is the last one under way. -/
theorem underWay_push
    (hs : y.bus.session? (.generator name) = x.bus.session? (.generator name)) {r : Request}
    (hp : y.adapter.book.pending = x.adapter.book.pending ++ [r]) :
    y.underWay name = x.underWay name ++ [r] := by
  rw [underWay, Broker.backlog_congr hs, hp, underWay, List.append_assoc]

theorem mem_underWay_push
    (hs : y.bus.session? (.generator name) = x.bus.session? (.generator name)) {r q : Request}
    (hp : y.adapter.book.pending = x.adapter.book.pending ++ [r])
    (hq : q ∈ x.underWay name ∨ q = r) : q ∈ y.underWay name := by
  rw [underWay_push hs hp, List.mem_append, List.mem_singleton]
  exact hq

/-- A request that waits is the last one that the generator will handle. -/
theorem impending_push (hg : y.generator.gate = x.generator.gate)
    (hs : y.bus.session? (.generator name) = x.bus.session? (.generator name)) {r : Request}
    (hp : y.adapter.book.pending = x.adapter.book.pending ++ [r]) :
    y.impending name = (x.impending name).apply r := by
  rw [impending, underWay_push hs hp, hg, Gate.applyAll_append]
  rfl

end UnderWay

/-- What the adapter has noted since its journal had `start` entries. -/
def since (start : Nat) (x : Duo) : List (Note String) := x.scene.journal.toList.drop start

/-- While the feed is up, the requests under way bring the generator's registry to the adapter's,
for the items covered since the start. -/
structure Agreed (name : String) (start : Nat) (x : Duo) : Prop where
  sound : x.Sound name
  reached : start ≤ x.scene.journal.size
  covered : x.adapter.epoch?.isSome = true → x.bus.available = true →
    ∀ {i}, Renews i (x.since start) → (x.impending name).id? i = x.adapter.book.id? i
  others : x.adapter.epoch?.isSome = true → x.bus.available = true →
    ∀ {i}, ¬ Renews i (x.since start) → (x.impending name).id? i = none

/-- A dispatch round moves the waiting requests into the generator's session. -/
theorem Sound.underWay_round {name : String} {x : Duo} (h : x.Sound name) (hf : x.Fed)
    {a : Adapter String} {m : Metrics} (hp : a.book.pending = [])
    (hl : (x.bus.sendAll .adapter .requests
      (x.adapter.book.pending.map Adapter.requestOctets)).lagged = x.bus.lagged) :
    (x.act (a, { x.scene with
      bus := x.bus.sendAll .adapter .requests
        (x.adapter.book.pending.map Adapter.requestOctets)
      metrics := m })).underWay name = x.underWay name := by
  obtain ⟨ha, hg⟩ := h.known hf.1
  have hback := Broker.Joins.backlog_sendAll .adapter h.line.joins hf.2 ha (hg hf.2) hl
  simp only [underWay, act, bus, hp, List.append_nil]
  refine (congrArg (List.filterMap Generator.readRequest) hback).trans ?_
  rw [List.filterMap_append, Generator.filterMap_readRequest]
  rfl

namespace Agreed

variable {name : String} {start : Nat} {x : Duo}

section Frames

/-- What an adapter that notes something has noted since the start. -/
theorem since_append (h : x.Agreed name start) {y : Duo} {ns : List (Note String)}
    (hj : y.scene.journal.toList = x.scene.journal.toList ++ ns) :
    y.since start = x.since start ++ ns := by
  have hlen : start ≤ x.scene.journal.toList.length := h.reached
  rw [since, hj, List.drop_append_of_le_length hlen, since]

theorem reached_append (h : x.Agreed name start) {y : Duo} {ns : List (Note String)}
    (hj : y.scene.journal.toList = x.scene.journal.toList ++ ns) :
    start ≤ y.scene.journal.size := by
  have hlen : y.scene.journal.toList.length =
      x.scene.journal.toList.length + ns.length := by rw [hj, List.length_append]
  have hx : start ≤ x.scene.journal.toList.length := h.reached
  show start ≤ y.scene.journal.toList.length
  omega

/-- Nothing is claimed of a duo whose feed is down. -/
theorem ofDrops (h : x.Agreed name start) {y : Duo} (hy : y.Sound name) (hd : Drops x y) :
    y.Agreed name start where
  sound := hy
  reached := let ⟨_, hj⟩ := hd.noted; h.reached_append hj
  covered he ha := (hd.down ⟨he, ha⟩).elim
  others he ha := (hd.down ⟨he, ha⟩).elim

/-- A step that covers nothing more, and changes neither the adapter's registry nor what the
generator's will be. -/
theorem ofSame (h : x.Agreed name start) {y : Duo} (hy : y.Sound name)
    {ns : List (Note String)} (hj : y.scene.journal.toList = x.scene.journal.toList ++ ns)
    (hns : ∀ i, ¬ Renews i ns)
    (hup : y.adapter.epoch?.isSome = true → y.bus.available = true →
      x.adapter.epoch?.isSome = true ∧ x.bus.available = true)
    (hids : ∀ i, y.adapter.book.id? i = x.adapter.book.id? i)
    (hi : x.adapter.epoch?.isSome = true → x.bus.available = true →
      ∀ i, (y.impending name).id? i = (x.impending name).id? i) :
    y.Agreed name start where
  sound := hy
  reached := h.reached_append hj
  covered hye hya i hc := by
    rw [h.since_append hj, renews_append] at hc
    obtain ⟨he, ha⟩ := hup hye hya
    rw [hi he ha, hids]
    exact h.covered he ha (hc.resolve_right (hns i))
  others hye hya i hc := by
    rw [h.since_append hj, renews_append, not_or] at hc
    obtain ⟨he, ha⟩ := hup hye hya
    rw [hi he ha]
    exact h.others he ha hc.1

/-- What the generator's registry will be depends on its ids and on the requests under way. -/
theorem impending_congr {x y : Duo} (hg : ∀ i, y.generator.gate.id? i = x.generator.gate.id? i)
    (hs : y.bus.session? (.generator name) = x.bus.session? (.generator name))
    (hp : y.adapter.book.pending = x.adapter.book.pending) (i : Item) :
    (y.impending name).id? i = (x.impending name).id? i := by
  rw [impending, underWay_congr hs hp]
  exact Gate.id?_applyAll_congr _ hg i

theorem not_renews_nil (i : Item) : ¬ Renews i ([] : List (Note String)) := by
  simp [Renews]

theorem not_renews_heard (i : Item) (t : Nat) (e : Epoch) :
    ¬ Renews i [(Note.heard t e false : Note String)] := by
  simp [Renews]

end Frames

section Pieces

theorem dialAdapter (h : x.Agreed name start) {r : Adapter String × Scene (Broker Party) String}
    {vs done : List Supervisor} (hvs : x.adapter.supervisors = done ++ vs)
    (hr : Adapter.superviseFrom (Broker.link .adapter 0) x.adapter x.scene done vs = some r) :
    (x.act r).Agreed name start :=
  h.ofDrops (h.sound.dialAdapter hvs hr) (h.sound.drops_dialAdapter hvs hr)

theorem lookAdapter (h : x.Agreed name start) {r : Adapter String × Scene (Broker Party) String}
    {ws done : List Watchdog} (hr : Adapter.watchFrom x.adapter x.scene done ws = some r) :
    (x.act r).Agreed name start := by
  have hy := h.sound.lookAdapter hr
  rcases Adapter.watchFrom_effect hr with ⟨ws, rfl⟩ | ⟨ws, rfl⟩
  · exact { h with sound := hy }
  · exact h.ofDrops hy (Sound.drops_degrade .producer ws)

theorem dialGenerator (h : x.Agreed name start)
    {r : Generator × Scene (Broker Party) String}
    {vs done : List Supervisor} (hvs : x.generator.supervisors = done ++ vs)
    (hr : Generator.superviseFrom (Broker.link (.generator name) 0) x.generator x.scene done vs =
      some r) : (x.emit r).Agreed name start :=
  h.ofDrops (h.sound.dialGenerator hvs hr) (h.sound.drops_dialGenerator hvs hr)

/-- The generator sends; its registry has the same ids as before. -/
theorem sends (h : x.Agreed name start) {g : Generator} {ps : List Payload} {m : Metrics}
    (hy : (x.emit (g, { x.scene with
      bus := x.bus.sendAll (.generator name) .updates ps, metrics := m })).Sound name)
    (hg : ∀ i, g.gate.id? i = x.generator.gate.id? i)
    (hl : (x.bus.sendAll (.generator name) .updates ps).lagged = x.bus.lagged) :
    (x.emit (g, { x.scene with
      bus := x.bus.sendAll (.generator name) .updates ps, metrics := m })).Agreed name start := by
  have hself := (Broker.Joins.session?_sendAll .generator h.sound.line.joins hl).1
  have ha : (x.bus.sendAll (.generator name) .updates ps).available = x.bus.available :=
    Broker.available_sendAll ps x.bus
  exact h.ofSame hy (List.append_nil _).symm not_renews_nil (fun he hya => ⟨he, ha.symm.trans hya⟩)
    (fun _ => rfl) (fun _ _ => impending_congr hg hself rfl)

theorem heartbeat (h : x.Agreed name start) {hs : List Nat}
    (hp : Generator.postpone? x.scene.now x.generator.config.heartbeatInterval
      x.generator.heartbeats = some hs) {y : Duo}
    (hy : y = x.emit (Generator.publishHeartbeat (Broker.link (.generator name) 0)
      { x.generator with heartbeats := hs } x.scene))
    (hl : y.bus.lagged = x.bus.lagged) : y.Agreed name start := by
  have hsound := h.sound.heartbeat hp hy hl
  obtain ⟨o, m, he⟩ := Generator.publishHeartbeat_effect (k := Party.generator name) (l := 0)
    { x.generator with heartbeats := hs } x.scene
  rw [he] at hy
  subst hy
  exact h.sends hsound (fun _ => rfl) hl

theorem trade (h : x.Agreed name start) {g : Generator} (hw : x.generator.wired = true)
    (hg : g.wired = x.generator.wired) (hr : g.released = x.generator.released)
    (hn : g.newest = x.generator.newest) (hv : g.supervisors = x.generator.supervisors)
    (hgate : g.gate = x.generator.gate) {y : Duo}
    (hy : y = x.emit (Generator.tick (Broker.link (.generator name) 0) g x.scene).2)
    (hl : y.bus.lagged = x.bus.lagged) : y.Agreed name start := by
  have hsound := h.sound.trade hw hg hr hn hv hy hl
  obtain ⟨o, m, he⟩ := Generator.tick_effect (k := Party.generator name) (l := 0)
    (hg.trans hw) (hr.trans h.sound.generatorHeld) x.scene
  rw [he] at hy
  subst hy
  refine h.sends hsound (fun i => ?_) hl
  rw [← hgate]
  exact Gate.id?_pass g.gate _ i _

theorem round (h : x.Agreed name start) {y : Duo}
    (hy : y = x.act (Adapter.dispatchRound (Broker.link .adapter 0) x.adapter x.scene))
    (hl : y.bus.lagged = x.bus.lagged) : y.Agreed name start := by
  have hsound := h.sound.round hy hl
  obtain ⟨o, m, he⟩ := Adapter.dispatchRound_effect (k := Party.adapter) (l := 0)
    h.sound.adapterHeld x.scene
  rw [he] at hy
  subst hy
  refine h.ofSame hsound (List.append_nil _).symm not_renews_nil (fun hknown hav =>
    ⟨hknown, (Broker.available_sendAll _ x.bus).symm.trans hav⟩) (fun _ => rfl)
    (fun hknown hav i => ?_)
  rw [impending, h.sound.underWay_round ⟨hknown, hav⟩ rfl hl]
  rfl

/-- The replay takes the generator's registry to the adapter's. -/
theorem adapterHears (h : x.Agreed name start) {p : Payload} {b : Broker Party}
    (hn : x.bus.Gives .adapter (.payload p) b) :
    (x.act (Adapter.receive p x.adapter (x.taken b))).Agreed name start := by
  have hy := h.sound.adapterHears hn
  obtain ⟨s, rest, hs, hb, rfl⟩ := hn.payload
  have hother : (x.bus.setSession .adapter (some { s with backlog := rest })).session?
      (.generator name) = x.bus.session? (.generator name) :=
    Broker.session?_setSession_of_ne (by simp) _ x.bus
  generalize hr : Adapter.receive p x.adapter
    (x.taken (x.bus.setSession .adapter (some { s with backlog := rest }))) = r at hy ⊢
  cases hr ▸ Adapter.receive_effect p x.adapter
    (x.taken (x.bus.setSession .adapter (some { s with backlog := rest }))) with
  | ignored m hm =>
      exact h.ofSame hy (List.append_nil _).symm not_renews_nil (fun he ha => ⟨he, ha⟩)
        (fun _ => rfl) (fun _ _ => impending_congr (fun _ => rfl) hother rfl)
  | anew msg m hm he =>
      have hj : (x.scene.journal.push (.heard x.scene.now msg.epoch true)).toList =
          x.scene.journal.toList ++ [.heard x.scene.now msg.epoch true] := Array.toList_push
      have hnew : ∀ i, Renews i [(.heard x.scene.now msg.epoch true : Note String)] := by
        simp [Renews]
      refine ⟨hy, h.reached_append hj, fun _ _ i _ => ?_, fun _ _ i hc => ?_⟩
      · show (Gate.applyAll (_ ++ (x.adapter.book.observe msg.epoch).2.replay) _).id? i = _
        rw [Gate.applyAll_append, Gate.id?_applyAll_replay]
        exact (Book.id?_resubscribeAll i (x.adapter.book.observe msg.epoch).2).symm
      · rw [h.since_append hj, renews_append] at hc
        exact absurd (Or.inr (hnew i)) hc
  | known msg m hm he hu =>
      have hknown : x.adapter.epoch?.isSome = true := by simp [he]
      exact h.ofSame hy Array.toList_push (fun i => not_renews_heard i _ _)
        (fun _ ha => ⟨hknown, ha⟩) (fun _ => rfl)
        (fun _ _ => impending_congr (fun _ => rfl) hother rfl)
  | delivered u sub m hm he hsub hid =>
      have hknown : x.adapter.epoch?.isSome = true := by simp [he]
      have hj : ∀ c : Delivery String,
          ((x.scene.journal.push (.heard x.scene.now u.epoch false)).push (.called c)).toList =
            x.scene.journal.toList ++ [.heard x.scene.now u.epoch false, .called c] := by
        simp
      refine h.ofSame hy (hj _) (fun i => by simp [Renews]) (fun _ ha => ⟨hknown, ha⟩)
        (fun i => ?_) (fun _ _ => impending_congr (fun _ => rfl) hother rfl)
      exact Book.id?_setSnapshotSent i u.item true (Adapter.counted u.epoch x.adapter.book)

theorem adapterLoses (h : x.Agreed name start) {b : Broker Party}
    (hn : x.bus.Gives .adapter .lost b) :
    (x.act (Adapter.transportError x.adapter (x.taken b))).Agreed name start :=
  h.ofDrops (h.sound.adapterLoses hn) (Sound.drops_adapterLoses b)

/-- The ids at the gate once a request was answered are those of the request alone. -/
theorem id?_answers (r : Request) (g : Generator) (i : Item) :
    (g.answers r).1.gate.id? i = (g.gate.apply r).id? i := by
  cases r with
  | reset => rfl
  | unsubscribe j n => rfl
  | subscribe j n => exact Gate.id?_pass _ j i true

/-- A request that the generator has handled is under way no more. -/
theorem handled (h : x.Agreed name start) {s : Session}
    (hs : x.bus.session? (.generator name) = some s) {p : Payload} {rest : List Payload}
    (hb : s.backlog = p :: rest) {g : Generator}
    (hy : ({ x with
      generator := g
      scene := x.taken (x.bus.setSession (.generator name) (some { s with backlog := rest })) } :
        Duo).Sound name)
    (hg : Generator.readRequest p = none ∧ g = x.generator ∨
      ∃ r, Generator.readRequest p = some r ∧
        ∀ i, g.gate.id? i = (x.generator.gate.apply r).id? i) :
    ({ x with
      generator := g
      scene := x.taken (x.bus.setSession (.generator name) (some { s with backlog := rest })) } :
        Duo).Agreed name start := by
  have hself := Broker.session?_setSession_self hs (some { s with backlog := rest })
  refine h.ofSame hy (List.append_nil _).symm not_renews_nil (fun he ha => ⟨he, ha⟩)
    (fun _ => rfl) (fun _ _ i => ?_)
  have hback : (x.bus.setSession (.generator name) (some { s with backlog := rest })).backlog
      (.generator name) = rest := Broker.backlog_of_session? hself
  rcases hg with ⟨hp, rfl⟩ | ⟨r, hp, hids⟩
  · simp only [impending, underWay, taken, hback, Broker.backlog_of_session? hs, hb,
      List.filterMap_cons, hp]
  · simp only [impending, underWay, taken, hback, Broker.backlog_of_session? hs, hb,
      List.filterMap_cons, hp, List.cons_append, Gate.applyAll_cons]
    exact Gate.id?_applyAll_congr _ hids i

theorem generatorHears (h : x.Agreed name start) {p : Payload} {b : Broker Party}
    (hn : x.bus.Gives (.generator name) (.payload p) b) {y : Duo}
    (hy : y = x.emit (Generator.receive (Broker.link (.generator name) 0) p x.generator
      (x.taken b)))
    (hl : y.bus.lagged = x.bus.lagged) : y.Agreed name start := by
  have hsound := h.sound.generatorHears hn hy hl
  obtain ⟨s, rest, hs, hb, rfl⟩ := hn.payload
  have hw := h.sound.wired_of_session? hs
  have hpop := h.sound.pop hs hb
  rcases Generator.receive_effect (k := Party.generator name) (l := 0) hw h.sound.generatorHeld p
    (x.taken (x.bus.setSession (.generator name) (some { s with backlog := rest }))) with
    ⟨hp, m, he⟩ | ⟨r, hp, o, m, he⟩
  · rw [he] at hy
    subst hy
    exact { h.handled hs hb hpop (Or.inl ⟨hp, rfl⟩) with sound := hsound }
  · rw [he] at hy
    subst hy
    have hasked : ({ x with
        generator := (x.generator.answers r).1
        scene := x.taken (x.bus.setSession (.generator name)
          (some { s with backlog := rest })) } : Duo).Sound name := by
      cases r <;> exact { hpop with }
    have hone := h.handled hs hb hasked (Or.inr ⟨r, hp, id?_answers r x.generator⟩)
    exact hone.sends hsound (fun _ => rfl) hl

theorem generatorLoses (h : x.Agreed name start) {b : Broker Party}
    (hn : x.bus.Gives (.generator name) .lost b) :
    (x.emit (x.generator.transportError, x.taken b)).Agreed name start :=
  h.ofDrops (h.sound.generatorLoses hn) (h.sound.drops_generatorLoses hn)

theorem piece (h : x.Agreed name start) {y : Duo} (hp : Piece name x y)
    (hl : y.bus.lagged = x.bus.lagged) : y.Agreed name start := by
  cases hp with
  | adapterDials place r hr => exact h.dialAdapter (List.take_append_drop place _).symm hr
  | adapterLooks place r hr => exact h.lookAdapter hr
  | generatorDials place r hr =>
      exact h.dialGenerator (List.take_append_drop place _).symm hr
  | heartbeat hs hp => exact h.heartbeat hp rfl hl
  | trade ts hp =>
      exact h.trade (g := { x.generator with ticks := ts }) (h.sound.wired_of_trade hp) rfl rfl
        rfl rfl rfl rfl hl
  | round hr => exact h.round rfl hl
  | adapterHears p b hn => exact h.adapterHears hn
  | adapterLoses b hn => exact h.adapterLoses hn
  | generatorHears p b hn => exact h.generatorHears hn rfl hl
  | generatorLoses b hn => exact h.generatorLoses hn

end Pieces

section Moves

/-- A registration is covered at once, as its request is under way. -/
theorem subscribes (h : x.Agreed name start) {r : Adapter String × Scene (Broker Party) String}
    (hr : Adapter.Subscribes x.adapter x.scene r) : (x.act r).Agreed name start := by
  have hy := h.sound.subscribes hr
  cases hr with
  | refused => exact { h with sound := hy }
  | idle i handle subs m notes he hc =>
      exact h.ofDrops hy ⟨not_fed_of_epoch? he,
        .subscribed i x.adapter.book.nextId :: notes.toList, by simp [act]⟩
  | requested i handle he =>
      have hj : (x.scene.journal.push (.subscribed i x.adapter.book.nextId)).toList =
          x.scene.journal.toList ++ [.subscribed i x.adapter.book.nextId] := Array.toList_push
      have himpending : ∀ y : Duo, y = x.act ({ x.adapter with
          book := (x.adapter.book.insert i handle).2.2.push
            (.subscribe i x.adapter.book.nextId)
          rounds := x.adapter.rounds + 1 }, x.scene.note (.subscribed i x.adapter.book.nextId)) →
          y.impending name = (x.impending name).apply (.subscribe i x.adapter.book.nextId) := by
        rintro y rfl
        refine impending_push ?_ ?_ ?_ <;> rfl
      refine ⟨hy, h.reached_append hj, fun _ ha j hc => ?_, fun _ ha j hc => ?_⟩
      · rw [himpending _ rfl]
        by_cases hne : j = i
        · subst hne
          rw [Gate.id?_apply_subscribe_self]
          exact (Book.id?_insert_self j handle _ x.adapter.book).symm
        · rw [Gate.id?_apply_subscribe_of_ne _ hne]
          rw [h.since_append hj, renews_append] at hc
          have hold := hc.resolve_right (by simp [Renews, hne])
          exact (h.covered he ha hold).trans
            (Book.id?_insert_of_ne hne handle _ x.adapter.book).symm
      · rw [h.since_append hj, renews_append, not_or] at hc
        have hne : j ≠ i := by
          rintro rfl
          exact hc.2 (Or.inr ⟨_, List.mem_singleton.mpr rfl⟩)
        rw [himpending _ rfl, Gate.id?_apply_subscribe_of_ne _ hne]
        exact h.others he ha hc.1

/-- The request to end a subscription removes exactly what the generator will have of it. -/
theorem unsubscribes (h : x.Agreed name start) {a : Adapter String}
    (ha : Adapter.Unsubscribes x.adapter a) :
    ({ x with adapter := a } : Duo).Agreed name start := by
  have hy := h.sound.unsubscribes ha
  cases ha with
  | refused => exact h
  | idle i he =>
      exact h.ofDrops hy (.silent (not_fed_of_epoch? he) rfl)
  | requested i sub he hs =>
      have himpending : ∀ y : Duo, y = { x with adapter := { x.adapter with
          book := (x.adapter.book.remove i).2.push (.unsubscribe i sub.id)
          rounds := x.adapter.rounds + 1 } } →
          y.impending name = (x.impending name).apply (.unsubscribe i sub.id) := by
        rintro y rfl
        refine impending_push ?_ ?_ ?_ <;> rfl
      have hold : x.adapter.book.id? i = some sub.id := by simp [Book.id?, hs]
      refine ⟨hy, h.reached, fun _ hav j hc => ?_, fun _ hav j hc => ?_⟩
      · rw [himpending _ rfl]
        by_cases hne : j = i
        · subst hne
          rw [Gate.id?_apply_unsubscribe_self, if_pos ((h.covered he hav hc).trans hold)]
          exact (Book.id?_remove_self j _ x.adapter.book).symm
        · rw [Gate.id?_apply_unsubscribe_of_ne _ hne]
          exact (h.covered he hav hc).trans (Book.id?_remove_of_ne hne _ x.adapter.book).symm
      · rw [himpending _ rfl]
        by_cases hne : j = i
        · subst hne
          rw [Gate.id?_apply_unsubscribe_self, h.others he hav hc, if_neg (by simp)]
        · rw [Gate.id?_apply_unsubscribe_of_ne _ hne]
          exact h.others he hav hc

theorem move (h : x.Agreed name start) (m : Move) (hi : Idle name x)
    (hl : (x.move name m).bus.lagged = x.bus.lagged) : (x.move name m).Agreed name start := by
  have hy := h.sound.move m hi hl
  cases m with
  | subscribe item handle =>
      exact h.subscribes (Adapter.subscribe_effect item handle x.adapter x.scene)
  | unsubscribe item => exact h.unsubscribes (Adapter.unsubscribe_effect item x.adapter)
  | sleep span => exact h
  | clock seconds => exact { h with sound := hy }
  | tick =>
      by_cases hw : x.generator.wired = true
      · exact h.trade hw rfl rfl rfl rfl rfl rfl hl
      · have hy : (x.emit (Generator.tick _ x.generator x.scene).2).Sound name := hy
        show (x.emit (Generator.tick _ x.generator x.scene).2).Agreed name start
        rw [Generator.tick_of_unwired (Bool.eq_false_iff.mpr hw)] at hy ⊢
        exact { h with sound := hy }
  | available value =>
      refine h.ofSame hy (List.append_nil _).symm not_renews_nil (fun he _ => ?_) (fun _ => rfl)
        (fun _ _ => impending_congr (fun _ => rfl) rfl rfl)
      have he : x.adapter.epoch?.isSome = true := he
      obtain ⟨s, hs⟩ := Option.isSome_iff_exists.mp (h.sound.known he).1
      exact ⟨he, h.sound.available_of_idle hi.bus hs⟩

theorem startAdapter (h : x.Agreed name start) (hz : x.adapter.newest = 0) :
    x.startAdapter.Agreed name start :=
  h.ofSame (h.sound.startAdapter hz) (List.append_nil _).symm not_renews_nil
    (fun he ha => ⟨he, ha⟩) (fun _ => rfl) (fun _ _ => impending_congr (fun _ => rfl)
      (Broker.session?_listen Party.adapter (.generator name) 0 x.bus) rfl)

theorem startGenerator (h : x.Agreed name start) (hf : x.generator.wired = false) :
    (x.startGenerator name).Agreed name start :=
  h.ofSame (h.sound.startGenerator hf) (List.append_nil _).symm not_renews_nil
    (fun he ha => ⟨he, ha⟩) (fun _ => rfl) (fun _ _ => impending_congr (fun _ => rfl)
      (Broker.session?_listen (.generator name) (.generator name) 0 x.bus) rfl)

end Moves

end Agreed

/-- Once all requests under way are handled, the generator knows the covered items as the adapter
does, and no others. -/
theorem agreed_kept (name : String) (start : Nat) : Kept name (Agreed name start) where
  piece _ _ h hp hl := h.piece hp hl
  time _ _ h := { h with sound := { h.sound with } }
  move _ m h hi hl := h.move m hi hl
  startAdapter _ h _ hz := h.startAdapter hz
  startGenerator _ h _ hf := h.startGenerator hf

/-- A duo whose parties were only just made agrees on nothing. -/
theorem Agreed.ofFresh {name : String} {x : Duo} (h : x.Sound name)
    (ha : ∃ c, Adapter.create c = .ok x.adapter) : x.Agreed name 0 := by
  obtain ⟨c, ha⟩ := ha
  have hepoch : x.adapter.epoch?.isSome ≠ true := by
    rw [Adapter.epoch?, (adapter_of_create ha).2.2.2]
    decide
  exact ⟨h, Nat.zero_le _, fun he => absurd he hepoch, fun he => absurd he hepoch⟩

/-- In an idle duo no request is under way. -/
theorem underWay_of_idle {name : String} {x : Duo} (h : x.Sound name) (hi : Idle name x) :
    x.underWay name = [] ∧ x.adapter.book.pending = [] := by
  have hp : x.adapter.book.pending = [] :=
    Decidable.byContradiction (fun hne => h.waiting hne hi.rounds)
  have hb : x.bus.backlog (.generator name) = [] := by
    cases hs : x.bus.session? (.generator name) with
    | none => simp [Broker.backlog, hs]
    | some s =>
        rw [Broker.backlog_of_session? hs]
        exact (Broker.next?_eq_none (Option.map_eq_none_iff.mp hi.bus) hs).1
  exact ⟨by rw [underWay, hb, hp]; rfl, hp⟩

/-- A settled feed that is up has a broker that is available. -/
theorem Sound.available_of_up {name : String} {x : Duo} (h : x.Sound name) (hi : Idle name x)
    (he : x.adapter.epoch?.isSome = true) : x.bus.available = true := by
  obtain ⟨s, hs⟩ := Option.isSome_iff_exists.mp (h.known he).1
  exact h.available_of_idle hi.bus hs

/-- In an idle duo with the feed up the generator has the adapter's id for every item covered since
the start. -/
theorem Agreed.id?_of_covered {name : String} {start : Nat} {x : Duo} (h : x.Agreed name start)
    (hi : Idle name x) (he : x.adapter.epoch?.isSome = true) {i : Item}
    (hc : Renews i (x.since start)) : x.generator.gate.id? i = x.adapter.book.id? i := by
  have hid := h.covered he (h.sound.available_of_up hi he) hc
  rw [impending, (underWay_of_idle h.sound hi).1] at hid
  exact hid

/-- It has no id for any other item. -/
theorem Agreed.id?_of_not_covered {name : String} {start : Nat} {x : Duo}
    (h : x.Agreed name start) (hi : Idle name x) (he : x.adapter.epoch?.isSome = true) {i : Item}
    (hc : ¬ Renews i (x.since start)) : x.generator.gate.id? i = none := by
  have hid := h.others he (h.sound.available_of_up hi he) hc
  rw [impending, (underWay_of_idle h.sound hi).1] at hid
  exact hid

end Duo

namespace Deployment

variable {name : String} {d₀ d : Deployment (Broker Party)} {a : Adapter String} {g : Generator}

/-- A settled state of a run with the feed up is that of an idle duo that agrees since the
beginning. -/
theorem agreed_of_feeds (h₀ : d₀.Fresh name) (hr : Run name d₀ d) (h : d.Feeds name a g) :
    ∃ x : Duo, x.Agreed name 0 ∧ x.Idle name ∧ x.adapter.epoch?.isSome = true ∧
      x.adapter = a ∧ x.generator = g ∧ d = x.deploy name := by
  obtain ⟨x₀, rfl, hj, hnone, hca, hcg, -⟩ := Duo.exists_of_fresh h₀
  have hstart : Duo.Holds name (Duo.Agreed name 0) (x₀.deploy name) :=
    ⟨x₀, rfl, hj, fun _ => .ofFresh (.ofFresh hj hnone hca hcg) hca⟩
  exact (Duo.agreed_kept name 0).exists_of_feeds hstart hr h

/-- In every settled state of a run in which nothing lagged and the feed is up, the generator's
registry is the adapter's, as a map from items to subscription ids, and no request waits. -/
theorem registries_agree (h₀ : d₀.Fresh name) (hr : Run name d₀ d) (h : d.Feeds name a g) :
    (∀ i, (g.gate.tenure? i).map (·.id) = (a.book.subscriptions.get? i).map (·.id)) ∧
      a.book.pending = [] := by
  obtain ⟨x, hx, hi, he, rfl, rfl, rfl⟩ := agreed_of_feeds h₀ hr h
  constructor
  · intro i
    -- the run that is known was heard since the beginning, so every item is covered
    have hcov : Renews i (x.since 0) := Or.inl (hx.sound.announced he)
    exact hx.id?_of_covered hi he hcov
  · exact (Duo.underWay_of_idle hx.sound hi).2

/-- The demonstration with one subscription. -/
theorem registries_agree_demo :
    ∃ a g, demoFed.Feeds "g" a g ∧ a.subscriptionCount = 1 ∧
      (∀ i, (g.gate.tenure? i).map (·.id) = (a.book.subscriptions.get? i).map (·.id)) ∧
        a.book.pending = [] := by
  obtain ⟨a, g, h, hn⟩ := demoFed_feeds
  exact ⟨a, g, h, hn, registries_agree demo_fresh demoFed_run h⟩

end Deployment

end QuoteBridge
