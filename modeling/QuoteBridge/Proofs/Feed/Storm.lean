import QuoteBridge.Proofs.Adapter.Run
import QuoteBridge.Proofs.Feed.Service

/-!
# Storms of subscriptions

The stall counter has 64 bits.  When as many messages are heard between two looks of a watchdog as
there are values of the counter, the watchdog finds the counter where it was.  Each subscription is
answered with one message, so that a consumer can bring this about on a healthy bus.

**Results.**
* `Duo.Poised.answered`: a subscription that is answered at once makes the counter go up by one.
* `Duo.Poised.storm`: and so do any number of them.
* `Duo.Poised.alarm`: a watchdog that finds the counter where it was takes the feed down.
* `Duo.Poised.drowned`: so that enough subscriptions take any healthy feed down.
-/

namespace QuoteBridge

namespace Broker

variable {name : String} {b : Broker Party} {p : Party}

/-- A session gives what has waited longest. -/
theorem gives_of_backlog {x : Payload} {rest : List Payload} (h : b.backlog p = x :: rest) :
    ∃ b', b.Gives p (.payload x) b' := by
  cases hs : b.session? p with
  | none => simp [backlog, hs] at h
  | some s =>
      rw [backlog_of_session? hs] at h
      exact ⟨_, s, .payloads, _, hs, by rw [Session.take?, h], rfl⟩

/-- What is sent alone to a session with nothing waiting is all that waits. -/
theorem Open.backlog_sendAll_single (h : b.Open name) (hp : IsOn name p)
    (hs : (b.session? p).isSome = true) (hs' : (b.session? (p.peer name)).isSome = true)
    (hnil : b.backlog (p.peer name) = []) (x : Payload) :
    (b.sendAll p p.role.outbound [x]).backlog (p.peer name) = [x] := by
  obtain ⟨s, hs'⟩ := Option.isSome_iff_exists.mp hs'
  have hpeer := (h.joins.session?_sendAll_push hp h.available [x]).2
  rw [if_pos hs, hs'] at hpeer
  rw [backlog_of_session? hs'] at hnil
  have hroom : s.backlog.length < b.capacity := by simpa [hnil] using h.roomy
  rw [backlog_of_session? hpeer]
  show (s.push b.capacity x).backlog = [x]
  rw [Session.backlog_push_of_lt hroom, hnil]
  rfl

end Broker

namespace Duo

variable {c : Config} {e : Epoch} {u : Nat} {w : Watchdog} {k : UInt64} {x : Duo}

/-- The feed is up and its only watchdog is due.  What is asked for, what waits for the generator
and what waits for the adapter are given, and the stall counter. -/
structure Poised (c : Config) (e : Epoch) (u : Nat) (w : Watchdog) (asked : List Request)
    (ps ms : List Payload) (k : UInt64) (x : Duo) : Prop where
  up : ∃ calls, x.IsUp c e u calls
  watchdogs : x.adapter.watchdogs = [w]
  due : w.wake ≤ x.scene.now
  asked : x.adapter.book.pending = asked
  requests : x.bus.backlog (.generator Feed.generatorName) = ps
  messages : x.bus.backlog .adapter = ms
  counter : x.adapter.book.liveness.stallCounter = k

theorem Poised.subscribe (h : x.Poised c e u w [] [] [] k) (items : List String)
    {item : String} (handle : String) {i : Item} (hi : Item.parse item = .ok i) :
    ∃ id, (x.call items (.subscribe item handle)).Poised c e u w [.subscribe i id] [] [] k ∧
      (x.call items (.subscribe item handle)).adapter.rounds ≠ 0 := by
  obtain ⟨calls, hup⟩ := h.up
  have hafter := hup.call items (k := .subscribe item handle) rfl
  obtain ⟨next, tick, w', t₀, n, hup⟩ := hup
  have hknown : x.adapter.epoch?.isSome = true := by simp [hup.known]
  have heq : x.call items (.subscribe item handle) =
      x.act (x.adapter.subscribe item handle x.scene).2 := rfl
  rw [Adapter.subscribe_of_known hi hknown handle x.scene] at heq
  rw [heq] at hafter ⊢
  refine ⟨x.adapter.book.nextId, ⟨⟨_, hafter⟩, h.watchdogs, h.due, ?_, h.requests, h.messages,
    h.counter⟩, Nat.succ_ne_zero _⟩
  show x.adapter.book.pending ++ [_] = _
  rw [h.asked]
  rfl

/-- The request is sent. -/
theorem Poised.round {r : Request} (h : x.Poised c e u w [r] [] [] k)
    (hr : x.adapter.rounds ≠ 0) :
    ∃ y, x.Piece Feed.generatorName y ∧
      y.Poised c e u w [] [Adapter.requestOctets r] [] k := by
  obtain ⟨calls, next, tick, w', t₀, n, hup⟩ := h.up
  have hafter := hup.round
  have hserves := hup.serves
  obtain ⟨o, m, heffect⟩ := Adapter.dispatchRound_effect (k := .adapter) (l := 0)
    hserves.adapterHeld x.scene
  refine ⟨_, .round hr, ?_⟩
  rw [heffect] at hafter ⊢
  rw [h.asked, List.map_singleton] at hafter ⊢
  exact
    { up := ⟨_, hafter⟩
      watchdogs := h.watchdogs
      due := h.due
      asked := rfl
      requests := hserves.line.backlog_sendAll_single onAdapter hup.sessions.1 hup.sessions.2
        h.requests _
      messages := (hserves.line.backlog_sendAll_self onAdapter _).trans h.messages
      counter := h.counter }

/-- The generator answers a subscription with one message. -/
theorem Poised.generatorHears {i : Item} {id : SubscriptionId}
    (h : x.Poised c e u w [] [Adapter.requestOctets (.subscribe i id)] [] k) :
    ∃ m y, x.Piece Feed.generatorName y ∧ y.Poised c e u w [] [] [m] k := by
  obtain ⟨calls, next, tick, w', t₀, n, hup⟩ := h.up
  obtain ⟨b, hg⟩ := Broker.gives_of_backlog h.requests
  have hafter := hup.generatorHears hg
  obtain ⟨hline, ⟨rest, hold, hnew⟩, hother, hopen⟩ := hup.serves.line.pop hg
  rw [h.requests] at hold
  cases hold
  have hquiet : b.backlog .adapter = [] := (hother _ (by simp)).trans h.messages
  have hserves := hup.serves.taken hg
  rcases Generator.receive_effect (k := .generator Feed.generatorName) (l := 0) hserves.wired
    hserves.generatorHeld (Adapter.requestOctets (.subscribe i id)) (x.taken b) with
    ⟨hnone, -⟩ | ⟨r, hr, o, m, heffect⟩
  · rw [Adapter.requestOctets, Generator.readRequest_text] at hnone
    cases hnone
  · rw [Adapter.requestOctets, Generator.readRequest_text] at hr
    cases hr
    obtain ⟨msg, hanswer⟩ : ∃ msg, (x.generator.answers (.subscribe i id)).2 = [msg] :=
      ⟨_, (Generator.answers_subscribe i id x.generator).2⟩
    refine ⟨msg.encode, _, .generatorHears _ b hg, ?_⟩
    rw [heffect, hanswer] at hafter ⊢
    exact
      { up := ⟨_, hafter⟩
        watchdogs := h.watchdogs
        due := h.due
        asked := h.asked
        requests := (hline.backlog_sendAll_self onGenerator _).trans hnew
        messages := hline.backlog_sendAll_single onGenerator ((hopen _).trans hup.sessions.2)
          ((hopen _).trans hup.sessions.1) hquiet _
        counter := h.counter }

/-- The adapter counts the message. -/
theorem Poised.adapterHears {p : Payload} (h : x.Poised c e u w [] [] [p] k) :
    ∃ y, x.Piece Feed.generatorName y ∧ y.Poised c e u w [] [] [] (k + 1) := by
  obtain ⟨calls, next, tick, w', t₀, n, hup⟩ := h.up
  obtain ⟨b, hg⟩ := Broker.gives_of_backlog h.messages
  have hafter := hup.adapterHears hg
  obtain ⟨hline, ⟨rest, hold, hnew⟩, hother, hopen⟩ := hup.serves.line.pop hg
  rw [h.messages] at hold
  cases hold
  have hquiet : b.backlog (.generator Feed.generatorName) = [] :=
    (hother _ (by simp)).trans h.requests
  obtain ⟨msg, hmsg, hepoch⟩ := hup.serves.announces p (by simp [h.messages])
  have hcount : (Adapter.counted e x.adapter.book).liveness.stallCounter = k + 1 := by
    have hknown : x.adapter.book.liveness.epoch = some e := hup.known
    rw [Adapter.counted, Book.observe, Liveness.observe, if_pos hknown, ← h.counter]
  refine ⟨_, .adapterHears p b hg, ?_⟩
  generalize hr : Adapter.receive p x.adapter (x.taken b) = r at hafter ⊢
  cases hr ▸ Adapter.receive_effect p x.adapter (x.taken b) with
  | ignored m hd =>
      rw [hmsg] at hd
      cases hd
  | anew msg' m hd he =>
      rw [hmsg] at hd
      cases hd
      exact absurd (hup.known.trans (congrArg some hepoch.symm)) he
  | known msg' m hd he hu =>
      rw [hmsg] at hd
      cases hd
      subst hepoch
      exact ⟨⟨_, hafter⟩, h.watchdogs, h.due, h.asked, hquiet, hnew, hcount⟩
  | delivered v sub m hd he hs hid =>
      rw [hmsg] at hd
      cases hd
      subst hepoch
      exact ⟨⟨_, hafter⟩, h.watchdogs, h.due, h.asked, hquiet, hnew, hcount⟩

variable {cs : List Feed.Call} {f₀ : Feed} {item : String} {i : Item}

/-- A subscription that is answered at once makes the counter go up by one. -/
theorem Poised.answered (h : x.Poised c e u w [] [] [] k) (hi : Item.parse item = .ok i)
    (handle : String) (hr : Feed.Run cs f₀ ⟨c, x.deploy Feed.generatorName⟩) :
    ∃ y : Duo, Feed.Run (cs ++ [.subscribe item handle]) f₀ ⟨c, y.deploy Feed.generatorName⟩ ∧
      y.Poised c e u w [] [] [] (k + 1) := by
  obtain ⟨id, h₁, hrounds⟩ := h.subscribe c.items handle hi
  have hr₁ := hr.called (.subscribe item handle)
  rw [call_deploy] at hr₁
  obtain ⟨x₂, hp₂, h₂⟩ := h₁.round hrounds
  obtain ⟨m, x₃, hp₃, h₃⟩ := h₂.generatorHears
  obtain ⟨x₄, hp₄, h₄⟩ := h₃.adapterHears
  exact ⟨x₄, .worked (.worked (.worked hr₁ hp₂) hp₃) hp₄, h₄⟩

/-- A storm of subscriptions moves the counter on by their number. -/
theorem Poised.storm (h : x.Poised c e u w [] [] [] k) (hi : Item.parse item = .ok i)
    (handle : String) (hr : Feed.Run cs f₀ ⟨c, x.deploy Feed.generatorName⟩) (n : Nat) :
    ∃ y : Duo, Feed.Run (cs ++ List.replicate n (.subscribe item handle)) f₀
        ⟨c, y.deploy Feed.generatorName⟩ ∧
      y.Poised c e u w [] [] [] (k + UInt64.ofNat n) := by
  induction n with
  | zero => exact ⟨x, by simpa using hr, by simpa using h⟩
  | succ n ih =>
      obtain ⟨y, hr', h'⟩ := ih
      obtain ⟨z, hr'', h''⟩ := h'.answered hi handle hr'
      refine ⟨z, ?_, ?_⟩
      · rwa [List.append_assoc, ← List.replicate_succ'] at hr''
      · rwa [UInt64.add_assoc, ← UInt64.ofNat_one, ← UInt64.ofNat_add] at h''

/-- A watchdog that finds the counter where it was takes the feed down. -/
theorem Poised.alarm {asked : List Request} {ps ms : List Payload}
    (h : x.Poised c e u w asked ps ms w.lastSeen) :
    ∃ y, x.Piece Feed.generatorName y ∧ y.adapter.epoch? = none := by
  obtain ⟨calls, next, tick, w', t₀, n, hup⟩ := h.up
  obtain rfl : w' = w := List.singleton_inj.mp (hup.watchdogs.symm.trans h.watchdogs)
  have hknown : x.adapter.book.liveness.epoch = some w'.epoch :=
    hup.known.trans (congrArg some hup.run.symm)
  have hlook : Adapter.look w' x.adapter x.scene =
      (none, Adapter.degrade .producer x.adapter x.scene) := by
    rw [Adapter.look, if_pos ⟨hknown, hup.connected⟩, if_pos h.counter]
  obtain ⟨subs, m, notes, -, hdegrade⟩ :=
    Adapter.degrade_effect .producer x.adapter x.scene
  have hwatch : Adapter.watchFrom x.adapter x.scene [] x.adapter.watchdogs =
      some ({ (Adapter.degrade .producer x.adapter x.scene).1 with watchdogs := [] },
        (Adapter.degrade .producer x.adapter x.scene).2) := by
    rw [h.watchdogs, Adapter.watchFrom, if_pos h.due, hlook]
    rfl
  refine ⟨_, .adapterLooks 0 _ hwatch, ?_⟩
  rw [hdegrade]
  rfl

/-- Enough subscriptions before its next look make a watchdog take a healthy feed down. -/
theorem Poised.drowned (h : x.Poised c e u w [] [] [] k) (hi : Item.parse item = .ok i)
    (handle : String) (hr : Feed.Run cs f₀ ⟨c, x.deploy Feed.generatorName⟩) :
    ∃ n, ∃ y : Duo, Feed.Run (cs ++ List.replicate n (.subscribe item handle)) f₀
        ⟨c, y.deploy Feed.generatorName⟩ ∧ y.adapter.epoch? = none := by
  obtain ⟨y, hr', h'⟩ := h.storm hi handle hr (w.lastSeen - k).toNat
  have hback : k + UInt64.ofNat (w.lastSeen - k).toNat = w.lastSeen := by
    rw [UInt64.ofNat_toNat, UInt64.add_comm, UInt64.sub_add_cancel]
  rw [hback] at h'
  obtain ⟨z, hp, hz⟩ := h'.alarm
  exact ⟨_, z, .worked hr' hp, hz⟩

end Duo

end QuoteBridge
