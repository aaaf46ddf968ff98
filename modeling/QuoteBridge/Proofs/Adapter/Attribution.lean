import QuoteBridge.Proofs.Adapter.Journal
import QuoteBridge.Proofs.Adapter.Run
import QuoteBridge.Proofs.Gate.Replay
import QuoteBridge.Proofs.Message.RoundTrip

/-!
# Whom an update is for

A payload makes a call of the consumer just if it is an update of the known producer run under the
id that the last registration of its item was answered with.  The call goes to the handle of that
very registration, and it is the only one.

**Ids.**  They are given out in order, from one on.  As long as they do not run out, the id of a
registration that was replaced or taken back is never given out again, so that no later update
under it makes a call.

**Results.**
* `Adapter.Attributed.step`: every effect of an act keeps the book in accord with the history.
* `Adapter.calls_receive_cases`: the calls that a payload makes, by what the book holds.
* `Adapter.live_call_iff_last_subscribed`: the calls that a payload makes, by what happened before.
-/

namespace QuoteBridge

/-- A call that brings an update of the producer. -/
def Delivery.IsLive {H : Type} (c : Delivery H) : Prop := c.kind ≠ .inactive

namespace Book

variable {H : Type} {i j : Item} {b b' : Book H}

/-- The subscription id and the handle that a book has for an item. -/
def holder? (i : Item) (b : Book H) : Option (SubscriptionId × H) :=
  (b.subscriptions.get? i).map (fun sub => (sub.id, sub.handle))

theorem holder?_insert_self (i : Item) (handle : H) (b : Book H) :
    (b.insert i handle).2.2.holder? i = some (b.nextId, handle) := by
  simp [holder?, insert]

theorem holder?_insert_of_ne (h : j ≠ i) (handle : H) (b : Book H) :
    (b.insert i handle).2.2.holder? j = b.holder? j := by
  simp [holder?, insert, SortedMap.get?_insert_of_ne _ h]

theorem holder?_remove_self (i : Item) (b : Book H) : (b.remove i).2.holder? i = none := by
  simp [holder?, remove]

theorem holder?_remove_of_ne (h : j ≠ i) (b : Book H) :
    (b.remove i).2.holder? j = b.holder? j := by
  simp [holder?, remove, SortedMap.get?_erase_of_ne _ h]

theorem holder?_setSnapshotSent (i j : Item) (value : Bool) (b : Book H) :
    (b.setSnapshotSent j value).holder? i = b.holder? i :=
  map_get?_setSnapshotSent (fun _ _ => rfl) i j value b

/-- A change of no more than the flags of the subscriptions leaves the holders as they are. -/
theorem holder?_map (flag : Subscription H → Bool)
    (h : b'.subscriptions =
      b.subscriptions.map (fun _ sub => { sub with snapshotSent := flag sub })) (i : Item) :
    b'.holder? i = b.holder? i := by
  simp [holder?, h, Function.comp_def]

end Book

namespace Adapter

variable {β H : Type}

section Answers

/-- The item of a granted call. -/
def Event.about? : Event H → Option Item
  | .subscribed name _ (.ok _) => (Item.parse name).toOption
  | .unsubscribed name (.ok _) => (Item.parse name).toOption
  | _ => none

/-- The id that a registration was answered with. -/
def Event.issued? : Event H → Option SubscriptionId
  | .subscribed _ _ (.ok n) => some n
  | _ => none

def issued (es : List (Event H)) : List SubscriptionId := es.filterMap Event.issued?

/-- An item was registered under an id for a handle, and no call about it was granted since. -/
def LastSubscribed (i : Item) (n : SubscriptionId) (handle : H) (es : List (Event H)) : Prop :=
  ∃ before name after, es = before ++ .subscribed name handle (.ok n) :: after ∧
    Item.parse name = .ok i ∧ ∀ ev ∈ after, ev.about? ≠ some i

/-- An item was registered under an id, and a later call about it was granted: the registration was
replaced or taken back. -/
def Retired (n : SubscriptionId) (es : List (Event H)) : Prop :=
  ∃ i before name handle after, es = before ++ .subscribed name handle (.ok n) :: after ∧
    Item.parse name = .ok i ∧ ∃ ev ∈ after, ev.about? = some i

variable {i : Item} {n : SubscriptionId} {handle : H} {es ev : List (Event H)} {entry : Event H}

theorem lastSubscribed_concat :
    LastSubscribed i n handle (es ++ [entry]) ↔
      (∃ name, entry = .subscribed name handle (.ok n) ∧ Item.parse name = .ok i) ∨
        LastSubscribed i n handle es ∧ entry.about? ≠ some i := by
  constructor
  · rintro ⟨before, name, after, h, hi, hafter⟩
    rcases concat_eq_append_cons h with ⟨rfl, rfl, rfl⟩ | ⟨rest, rfl, rfl⟩
    · exact Or.inl ⟨name, rfl, hi⟩
    · refine Or.inr ⟨⟨before, name, rest, rfl, hi, fun e hm => ?_⟩, ?_⟩
      · exact hafter e (List.mem_append_left _ hm)
      · exact hafter entry (by simp)
  · rintro (⟨name, rfl, hi⟩ | ⟨⟨before, name, after, rfl, hi, hafter⟩, hentry⟩)
    · exact ⟨es, name, [], rfl, hi, by simp⟩
    · refine ⟨before, name, after ++ [entry], by simp, hi, fun e hm => ?_⟩
      rcases List.mem_append.mp hm with hm | hm
      · exact hafter e hm
      · exact List.mem_singleton.mp hm ▸ hentry

/-- Entries about no item at all leave the last registrations as they are. -/
theorem lastSubscribed_append (h : ∀ e ∈ ev, e.about? = none) :
    LastSubscribed i n handle (es ++ ev) ↔ LastSubscribed i n handle es := by
  induction ev generalizing es with
  | nil => rw [List.append_nil]
  | cons entry ev ih =>
      have hentry : entry.about? = none := h entry List.mem_cons_self
      rw [List.append_cons, ih (fun e hm => h e (List.mem_cons_of_mem _ hm)),
        lastSubscribed_concat]
      constructor
      · rintro (⟨name, rfl, hi⟩ | ⟨hlast, -⟩)
        · simp [Event.about?, hi, Except.toOption] at hentry
        · exact hlast
      · intro hlast
        exact Or.inr ⟨hlast, by simp [hentry]⟩

@[simp] theorem issued_append (es ev : List (Event H)) :
    issued (es ++ ev) = issued es ++ issued ev :=
  List.filterMap_append

/-- An id that was given out only once stands at one place of the history. -/
theorem eq_of_issued_nodup {before before' after after' : List (Event H)} {e e' : Event H}
    (hnodup : (issued (before ++ e :: after)).Nodup)
    (h : before ++ e :: after = before' ++ e' :: after')
    (he : e.issued? = some n) (he' : e'.issued? = some n) : e = e' ∧ after = after' := by
  have hone : ∀ {front mid back : List (Event H)} {e₁ e₂ : Event H}, e₁.issued? = some n →
      e₂.issued? = some n → ¬ (issued (front ++ e₁ :: (mid ++ e₂ :: back))).Nodup := by
    intro front mid back e₁ e₂ h₁ h₂ hnodup
    simp only [issued, List.filterMap_append, List.filterMap_cons, h₁, h₂] at hnodup
    have htail := (List.nodup_append.mp hnodup).2.1
    exact (List.nodup_cons.mp htail).1 (by simp)
  rcases List.append_eq_append_iff.mp h with ⟨mid, hb, ha⟩ | ⟨mid, hb, ha⟩
  · cases mid with
    | nil => exact List.cons.inj (by simpa using ha)
    | cons e₀ mid =>
        obtain ⟨rfl, rfl⟩ := List.cons.inj ha
        exact absurd hnodup (hone he he')
  · cases mid with
    | nil =>
        obtain ⟨hee, haa⟩ := List.cons.inj ha
        exact ⟨hee.symm, haa.symm⟩
    | cons e₀ mid =>
        obtain ⟨rfl, rfl⟩ := List.cons.inj ha
        rw [h] at hnodup
        exact absurd hnodup (hone he' he)

/-- A retired id is not the one of a last registration, if it was given out only once. -/
theorem Retired.not_lastSubscribed (h : Retired n es) (hnodup : (issued (es ++ ev)).Nodup) :
    ¬ LastSubscribed i n handle (es ++ ev) := by
  rintro ⟨before', name', after', h', hi', hafter'⟩
  obtain ⟨j, before, name, handle₀, after, rfl, hj, e, he, habout⟩ := h
  have hsplit : before ++ Event.subscribed name handle₀ (.ok n) :: (after ++ ev) =
      before' ++ .subscribed name' handle (.ok n) :: after' := by
    simpa using h'
  obtain ⟨hentry, hafter⟩ := eq_of_issued_nodup (by simpa using hnodup) hsplit rfl rfl
  cases hentry
  cases hj.symm.trans hi'
  exact hafter' e (hafter ▸ List.mem_append_left _ he) habout

end Answers

section Attribution

/-- The book holds the last registrations, and the ids are given out in order. -/
structure Attributed (es : List (Event H)) (b : Book H) : Prop where
  holder : ∀ i n handle, b.holder? i = some (n, handle) ↔ LastSubscribed i n handle es
  next : b.nextId = UInt64.ofNat ((issued es).length + 1)
  ordered : issued es = (List.range' 1 (issued es).length).map UInt64.ofNat

variable {es ev : List (Event H)} {b b' : Book H}

theorem Attributed.frame (h : Attributed es b) (hev : ∀ e ∈ ev, e.about? = none)
    (hids : ∀ e ∈ ev, e.issued? = none) (hholder : ∀ i, b'.holder? i = b.holder? i)
    (hnext : b'.nextId = b.nextId) : Attributed (es ++ ev) b' := by
  have hissued : issued (es ++ ev) = issued es := by
    rw [issued_append, issued, issued, List.filterMap_eq_nil_iff.mpr hids, List.append_nil]
  constructor
  · intro i n handle
    rw [hholder, lastSubscribed_append hev]
    exact h.holder i n handle
  · rw [hissued, hnext]
    exact h.next
  · rw [hissued]
    exact h.ordered

theorem Attributed.same (h : Attributed es b) (hholder : ∀ i, b'.holder? i = b.holder? i)
    (hnext : b'.nextId = b.nextId) : Attributed (es ++ []) b' :=
  h.frame (by simp) (by simp) hholder hnext

theorem Attributed.registered (h : Attributed es b) {name : String} {i : Item} {handle : H}
    (hi : Item.parse name = .ok i) (hself : b'.holder? i = some (b.nextId, handle))
    (hother : ∀ j, j ≠ i → b'.holder? j = b.holder? j) (hnext : b'.nextId = b.nextId + 1) :
    Attributed (es ++ [.subscribed name handle (.ok b.nextId)]) b' := by
  have habout : (Event.subscribed name handle (.ok b.nextId)).about? = some i := by
    simp [Event.about?, hi, Except.toOption]
  have hissued : issued (es ++ [.subscribed name handle (.ok b.nextId)]) =
      issued es ++ [b.nextId] := by
    rw [issued_append]
    rfl
  constructor
  · intro j n handle'
    rw [lastSubscribed_concat, habout]
    by_cases hj : j = i
    · subst hj
      rw [hself]
      constructor
      · intro heq
        cases heq
        exact Or.inl ⟨name, rfl, hi⟩
      · rintro (⟨name', heq, -⟩ | ⟨-, hne⟩)
        · cases heq
          rfl
        · exact absurd rfl hne
    · rw [hother j hj, h.holder]
      constructor
      · intro hlast
        exact Or.inr ⟨hlast, fun heq => hj (Option.some.inj heq).symm⟩
      · rintro (⟨name', heq, hi'⟩ | ⟨hlast, -⟩)
        · cases heq
          cases hi.symm.trans hi'
          exact absurd rfl hj
        · exact hlast
  · rw [hissued, hnext, h.next, List.length_append, List.length_singleton]
    exact (UInt64.ofNat_add _ 1).symm
  · rw [hissued, List.length_append, List.length_singleton, List.range'_1_concat, List.map_append,
      ← h.ordered, h.next, Nat.add_comm]
    rfl

theorem Attributed.removed (h : Attributed es b) {name : String} {i : Item}
    (hi : Item.parse name = .ok i) (hself : b'.holder? i = none)
    (hother : ∀ j, j ≠ i → b'.holder? j = b.holder? j) (hnext : b'.nextId = b.nextId) :
    Attributed (es ++ [.unsubscribed name (.ok ())]) b' := by
  have habout : (Event.unsubscribed name (.ok ()) : Event H).about? = some i := by
    simp [Event.about?, hi, Except.toOption]
  have hissued : issued (es ++ [Event.unsubscribed name (.ok ())]) = issued es := by
    rw [issued_append]
    exact List.append_nil _
  constructor
  · intro j n handle
    rw [lastSubscribed_concat, habout]
    by_cases hj : j = i
    · subst hj
      simp [hself]
    · rw [hother j hj, h.holder]
      simp [Ne.symm hj]
  · rw [hissued, hnext]
    exact h.next
  · rw [hissued]
    exact h.ordered

theorem Attributed.step {now : Nat} {act : Act β H} {ns : List (Note H)} (h : Attributed es b)
    (heff : Effect now b act ev ns b') : Attributed (es ++ ev) b' := by
  cases heff with
  | quiet value => exact h.same (fun _ => rfl) rfl
  | subscribeRefused name handle e =>
      exact h.frame (by simp [Event.about?]) (by simp [Event.issued?]) (fun _ => rfl) rfl
  | unsubscribeRefused name e =>
      exact h.frame (by simp [Event.about?]) (by simp [Event.issued?]) (fun _ => rfl) rfl
  | @requested name i handle hi he =>
      exact h.registered hi (Book.holder?_insert_self i handle b)
        (fun j hj => Book.holder?_insert_of_ne hj handle b) rfl
  | @registered name i handle hi he =>
      refine h.registered hi ?_ (fun j hj => ?_) rfl
      · rw [Book.holder?_setSnapshotSent, Book.holder?_insert_self]
      · rw [Book.holder?_setSnapshotSent, Book.holder?_insert_of_ne hj]
  | @withdrawn name i sub hi hs he =>
      exact h.removed hi (Book.holder?_remove_self i b)
        (fun j hj => Book.holder?_remove_of_ne hj b) rfl
  | @removed name i hi he =>
      exact h.removed hi (Book.holder?_remove_self i b)
        (fun j hj => Book.holder?_remove_of_ne hj b) rfl
  | renewed hm he =>
      exact h.frame (by simp [Event.about?]) (by simp [Event.issued?])
        (Book.holder?_map (fun _ => false) rfl) rfl
  | known hm he => exact h.same (fun _ => rfl) rfl
  | delivered hm he hs hid => exact h.same (fun j => Book.holder?_setSnapshotSent j _ true _) rfl
  | degraded value hcause => exact h.same (Book.holder?_map (fun _ => true) rfl) rfl
  | stopped => exact h.same (fun _ => rfl) rfl
  | sent answer hp =>
      exact h.frame (by simp [Event.about?]) (by simp [Event.issued?]) (fun _ => rfl) rfl

variable {link : Link β} {x : Adapter H × Scene β H} {acts : List (Act β H)}

theorem attributed_run (hx : IsFresh x) :
    Attributed (history link acts x) (run link acts x).1.book := by
  refine run_induction (P := fun es _ b => Attributed es b) hx ⟨?_, rfl, rfl⟩
    (fun _ heff h => h.step heff)
  intro i n handle
  constructor
  · intro hnone
    cases hnone
  · rintro ⟨before, name, after, h, -⟩
    simp at h

/-- As long as the ids do not run out they count the registrations. -/
theorem Attributed.map_toNat_issued (h : Attributed es b)
    (hfew : (issued es).length < UInt64.size) :
    (issued es).map UInt64.toNat = List.range' 1 (issued es).length := by
  conv =>
    lhs
    rw [h.ordered]
  rw [List.map_map]
  refine (List.map_congr_left (fun n hn => ?_)).trans (List.map_id _)
  have hlt : n < UInt64.size := by
    have := (List.mem_range'_1.mp hn).2
    omega
  exact UInt64.toNat_ofNat_of_lt' hlt

theorem Attributed.issued_nodup (h : Attributed es b)
    (hfew : (issued es).length < UInt64.size) : (issued es).Nodup := by
  have hnodup : ((issued es).map UInt64.toNat).Nodup := by
    rw [h.map_toNat_issued hfew]
    exact List.nodup_range'
  exact (List.pairwise_map.mp hnodup).imp (fun hne heq => hne (congrArg _ heq))

end Attribution

section Payloads

/-- A payload is an update of the known producer run for the last registration of its item. -/
def Addressed (p : Payload) (u : Update) (handle : H) (known : Option Epoch)
    (es : List (Event H)) : Prop :=
  Message.decode p = some (.update u) ∧ known = some u.epoch ∧
    LastSubscribed u.item u.subscriptionId handle es

/-- A payload makes the call for a subscription whose id it has, or none. -/
theorem calls_receive_cases (link : Link β) (p : Payload) (x : Adapter H × Scene β H) :
    (∃ u handle c, Message.decode p = some (.update u) ∧ x.1.epoch? = some u.epoch ∧
      x.1.book.holder? u.item = some (u.subscriptionId, handle) ∧
        calls link (.receive p) x = [c] ∧ c.IsLive ∧ c.item = u.item ∧
          c.id = u.subscriptionId ∧ c.handle = handle ∧ c.fields = u.fields) ∨
      calls link (.receive p) x = [] ∧
        ∀ u handle, Message.decode p = some (.update u) → x.1.epoch? = some u.epoch →
          x.1.book.holder? u.item ≠ some (u.subscriptionId, handle) := by
  obtain ⟨a, s⟩ := x
  have hcalls : ∀ {ns}, (receive p a s).2.journal.toList = s.journal.toList ++ ns →
      calls link (.receive p) (a, s) = ns.filterMap Note.call? :=
    fun hj => congrArg (List.filterMap Note.call?) (notes_eq hj)
  generalize hr : receive p a s = r at hcalls
  cases hr ▸ receive_effect p a s with
  | ignored m hm =>
      refine Or.inr ⟨hcalls (List.append_nil _).symm, fun u handle hu => ?_⟩
      cases hm.symm.trans hu
  | anew msg m hm he =>
      refine Or.inr ⟨hcalls Array.toList_push, fun u handle hu hknown => ?_⟩
      cases hm.symm.trans hu
      exact absurd hknown he
  | known msg m hm he hother =>
      refine Or.inr ⟨hcalls Array.toList_push, fun u handle hu hknown hheld => ?_⟩
      cases hm.symm.trans hu
      obtain ⟨sub, hsub, hpair⟩ := Option.map_eq_some_iff.mp hheld
      exact hother u sub rfl hsub (congrArg Prod.fst hpair)
  | delivered u sub m hm he hs hid =>
      have hheld : a.book.holder? u.item = some (u.subscriptionId, sub.handle) := by
        simp [Book.holder?, hs, hid]
      have hj : ((s.journal.push (.heard s.now u.epoch false)).push
          (.called (updateCall s.now u sub))).toList =
            s.journal.toList ++ [.heard s.now u.epoch false, .called (updateCall s.now u sub)] := by
        simp
      exact Or.inl ⟨u, sub.handle, updateCall s.now u sub, hm, he, hheld, hcalls hj,
        kind_updateCall s.now u sub, rfl, hid, rfl, rfl⟩

variable {link : Link β} {y : Adapter H × Scene β H} {es ev : List (Event H)} {p : Payload}
  {u : Update} {handle : H}

theorem Attributed.calls_of_addressed (link : Link β) (h : Attributed es y.1.book)
    (hto : Addressed p u handle y.1.epoch? es) :
    ∃ c, calls link (.receive p) y = [c] ∧ c.IsLive ∧ c.item = u.item ∧ c.id = u.subscriptionId ∧
      c.handle = handle ∧ c.fields = u.fields := by
  obtain ⟨hm, he, hlast⟩ := hto
  have hheld := (h.holder _ _ _).mpr hlast
  rcases calls_receive_cases link p y with
    ⟨v, handle', c, hm', -, hheld', hc, hlive, hi, hn, hh, hf⟩ | ⟨-, hother⟩
  · cases hm.symm.trans hm'
    cases hheld.symm.trans hheld'
    exact ⟨c, hc, hlive, hi, hn, hh, hf⟩
  · exact absurd hheld (hother u handle hm he)

theorem Attributed.exists_addressed (h : Attributed es y.1.book) {c : Delivery H}
    (hc : c ∈ calls link (.receive p) y) : ∃ u handle, Addressed p u handle y.1.epoch? es := by
  rcases calls_receive_cases link p y with ⟨u, handle, c', hm, he, hheld, -⟩ | ⟨hnone, -⟩
  · exact ⟨u, handle, hm, he, (h.holder _ _ _).mp hheld⟩
  · rw [hnone] at hc
    cases hc

theorem Attributed.calls_of_retired (h : Attributed (es ++ ev) y.1.book)
    (hfew : (issued (es ++ ev)).length < UInt64.size) (hretired : Retired u.subscriptionId es)
    (hm : Message.decode p = some (.update u)) : calls link (.receive p) y = [] := by
  rcases calls_receive_cases link p y with ⟨v, handle, c, hm', -, hheld, -⟩ | ⟨hnone, -⟩
  · cases hm.symm.trans hm'
    have hlast := (h.holder _ _ _).mp hheld
    exact absurd hlast (hretired.not_lastSubscribed (h.issued_nodup hfew))
  · exact hnone

variable {x : Adapter H × Scene β H} {acts : List (Act β H)}

/-- After any run a payload makes a live call just if it is addressed to the last registration of
its item, and then it makes this call alone.  The ids that were given out count from one, and a
payload under the id of a registration that was replaced or taken back makes no call, however the
run goes on. -/
theorem live_call_iff_last_subscribed (hx : IsFresh x) :
    (∀ p, (∃ c ∈ calls link (.receive p) (run link acts x), c.IsLive) ↔
      ∃ u handle, Addressed p u handle (run link acts x).1.epoch? (history link acts x)) ∧
      (∀ p u handle, Addressed p u handle (run link acts x).1.epoch? (history link acts x) →
        ∃ c, calls link (.receive p) (run link acts x) = [c] ∧ c.IsLive ∧ c.item = u.item ∧
          c.id = u.subscriptionId ∧ c.handle = handle ∧ c.fields = u.fields) ∧
        ((issued (history link acts x)).length < UInt64.size →
          (issued (history link acts x)).map UInt64.toNat =
            List.range' 1 (issued (history link acts x)).length) ∧
          ∀ later p u, Retired u.subscriptionId (history link acts x) →
            (issued (history link (acts ++ later) x)).length < UInt64.size →
              Message.decode p = some (.update u) →
                calls link (.receive p) (run link (acts ++ later) x) = [] := by
  have hkept : Attributed (history link acts x) (run link acts x).1.book := attributed_run hx
  refine ⟨fun p => ⟨?_, ?_⟩, fun p u handle hto => hkept.calls_of_addressed link hto,
    hkept.map_toNat_issued, ?_⟩
  · rintro ⟨c, hc, -⟩
    exact hkept.exists_addressed hc
  · rintro ⟨u, handle, hto⟩
    obtain ⟨c, hc, hlive, -⟩ := hkept.calls_of_addressed link hto
    exact ⟨c, by simp [hc], hlive⟩
  · intro later p u hretired hfew hm
    have hlater : Attributed (history link (acts ++ later) x)
        (run link (acts ++ later) x).1.book := attributed_run hx
    rw [history_append] at hlater hfew
    exact hlater.calls_of_retired hfew hretired hm

/-- The demonstration: an update reaches the second registration, and none does the first any more,
also after a loss and a new producer run. -/
theorem live_call_iff_last_subscribed_demo :
    (∃ c, calls Recorder.link (.receive demoPayload) (run Recorder.link demoActs demoStart) = [c] ∧
      c.IsLive ∧ c.handle = "second" ∧ c.fields = demoUpdate.fields) ∧
      calls Recorder.link (.receive (Message.update { demoUpdate with subscriptionId := 1 }).encode)
        (run Recorder.link (demoActs ++ [.lose, .receive (Message.heartbeat 5).encode])
          demoStart) = [] := by
  obtain ⟨-, hone, -, hstale⟩ :=
    @live_call_iff_last_subscribed _ _ Recorder.link demoStart demoActs demoStart_isFresh
  have hto : Addressed demoPayload demoUpdate "second"
      (run Recorder.link demoActs demoStart).1.epoch?
      (history Recorder.link demoActs demoStart) := by
    refine ⟨Message.decode_encode _, by decide +kernel, ?_⟩
    rw [history_demoActs]
    exact ⟨[.subscribed "item7" "first" (.ok 1), .renewed 5, .sent .reset (.ok ())], "item07",
      [.sent (.subscribe demoItem 1) (.ok ())], rfl, by decide +kernel, by simp [Event.about?]⟩
  have hretired : Retired 1 (history Recorder.link demoActs demoStart) := by
    rw [history_demoActs]
    exact ⟨demoItem, [], "item7", "first", _, rfl, by decide +kernel,
      .subscribed "item07" "second" (.ok 2), by simp, by decide +kernel⟩
  obtain ⟨c, hc, hlive, -, -, hhandle, hfields⟩ := hone demoPayload demoUpdate "second" hto
  exact ⟨⟨c, hc, hlive, hhandle, hfields⟩,
    hstale _ _ { demoUpdate with subscriptionId := 1 } hretired (by decide +kernel)
      (Message.decode_encode _)⟩

end Payloads

end Adapter
end QuoteBridge
