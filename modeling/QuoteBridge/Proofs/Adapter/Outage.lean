import QuoteBridge.Proofs.Adapter.Journal
import QuoteBridge.Proofs.Adapter.Run

/-!
# What the consumer knows of an outage

As long as the adapter was not stopped: while it knows no producer run, the last call that was made
for every subscription told so.

**Degradation.**  The producer run is given up when the session is lost, also if there was none to
give up, and when a watchdog finds the known run silent.  Either is told to every subscription once,
in the order of the item names, and changes nothing of what is registered or waits.

**Results.**
* `Adapter.Informed.step`: every effect of an act but a stop keeps the consumer informed.
* `Adapter.perform_of_degrades`, `Adapter.calls_of_degrades`: what a degradation does.
* `Adapter.told_inactive_while_down`: both together, for the state that any run leads to.
-/

namespace QuoteBridge

theorem Item.name_lt_of_compare {i j : Item} (h : compare i j = .lt) : i.name < j.name :=
  compareOfLessAndEq_eq_lt.mp h

/-- A call that tells of no producer. -/
structure Delivery.TellsInactive {H : Type} (c : Delivery H) : Prop where
  kind : c.kind = .inactive
  status : c.fields.get? "item_status" = some "inactive"

/-- The items, ids and handles of the subscriptions, in the order of the book. -/
def Book.enrolled {H : Type} (b : Book H) : List (Item × SubscriptionId × H) :=
  b.subscriptions.entries.map (fun e => (e.1, e.2.id, e.2.handle))

namespace Adapter

variable {β H : Type}

section Telling

/-- A subscription got its snapshot, and the last call for it told of no producer. -/
def Told (i : Item) (sub : Subscription H) (js : List (Note H)) : Prop :=
  sub.snapshotSent = true ∧ ∃ c, LastCall i sub.id c js ∧ c.handle = sub.handle ∧ c.TellsInactive

variable {i : Item} {sub : Subscription H} {js ns : List (Note H)}

theorem tellsInactive_inactiveCall (now : Nat) (i : Item) (sub : Subscription H) :
    (inactiveCall now i sub).TellsInactive := by
  refine ⟨rfl, ?_⟩
  simp only [inactiveCall]
  split
  · exact SortedMap.get?_insert_self _ statusField inactiveStatus
  · exact SortedMap.get?_insert_self _ statusField inactiveStatus

theorem Told.append (h : Told i sub js) (hns : ∀ c, .called c ∈ ns → c.item ≠ i) :
    Told i sub (js ++ ns) := by
  obtain ⟨hsent, c, hlast, hhandle, hc⟩ := h
  exact ⟨hsent, c, hlast.append (fun c' hc' hsame => hns c' hc' hsame.1), hhandle, hc⟩

theorem told_concat (now : Nat) (i : Item) (sub : Subscription H) (js : List (Note H)) :
    Told i (served sub) (js ++ [.called (inactiveCall now i sub)]) :=
  ⟨rfl, inactiveCall now i sub, ⟨js, [], rfl, rfl, rfl, by simp⟩, rfl,
    tellsInactive_inactiveCall now i sub⟩

theorem exists_of_called_mem_lossNotes {now : Nat} {es : List (Item × Subscription H)}
    {c : Delivery H} (h : .called c ∈ lossNotes now es) :
    ∃ e ∈ es, c = inactiveCall now e.1 e.2 := by
  obtain ⟨e, he, heq⟩ := List.mem_map.mp h
  exact ⟨e, he, (Note.called.inj heq).symm⟩

theorem told_lossNotes (now : Nat) (js : List (Note H)) {subs : SortedMap Item (Subscription H)}
    (h : subs.get? i = some sub) : Told i (served sub) (js ++ lossNotes now subs.entries) := by
  obtain ⟨before, after, hes, -, hafter⟩ := subs.exists_entries_eq_append h
  have hsplit : js ++ lossNotes now subs.entries =
      ((js ++ lossNotes now before) ++ [.called (inactiveCall now i sub)]) ++
        lossNotes now after := by
    simp [hes, lossNotes]
  rw [hsplit]
  refine (told_concat now i sub _).append (fun c hc => ?_)
  obtain ⟨e, he, rfl⟩ := exists_of_called_mem_lossNotes hc
  exact hafter e he

/-- While no producer run is known, every subscription was told so last. -/
def Informed (js : List (Note H)) (b : Book H) : Prop :=
  b.liveness.epoch = none → ∀ i sub, b.subscriptions.get? i = some sub → Told i sub js

variable {b b' : Book H}

theorem Informed.ofKnown {e : Epoch} (h : b.liveness.epoch = some e) : Informed js b := by
  intro hnone
  cases hnone.symm.trans h

theorem Informed.same (h : Informed js b) (he : b'.liveness.epoch = b.liveness.epoch)
    (hsubs : b'.subscriptions = b.subscriptions) : Informed (js ++ []) b' := by
  rw [List.append_nil]
  intro hnone i sub hsub
  exact h (he.symm.trans hnone) i sub (hsubs ▸ hsub)

theorem Informed.step {now : Nat} {act : Act β H} {ev : List (Event H)} (h : Informed js b)
    (heff : Effect now b act ev ns b') (hact : act ≠ .shutdown) : Informed (js ++ ns) b' := by
  cases heff with
  | quiet value => exact h.same rfl rfl
  | subscribeRefused name handle e => exact h.same rfl rfl
  | unsubscribeRefused name e => exact h.same rfl rfl
  | requested handle hi he =>
      obtain ⟨e, he⟩ := Option.isSome_iff_exists.mp he
      exact .ofKnown he
  | @registered name i handle hi he =>
      intro _ j sub hsub
      by_cases hj : j = i
      · subst hj
        have hnew : served ⟨b.nextId, handle, false⟩ = sub := by
          simpa [Book.setSnapshotSent, Book.insert, served] using hsub
        rw [← hnew, List.append_cons]
        exact told_concat now j _ _
      · have hold : b.subscriptions.get? j = some sub := by
          simpa [Book.setSnapshotSent, Book.insert, SortedMap.get?_modify_of_ne _ hj,
            SortedMap.get?_insert_of_ne _ hj] using hsub
        refine (h he j sub hold).append (fun c hc => ?_)
        have hcall : c = inactiveCall now i ⟨b.nextId, handle, false⟩ := by simpa using hc
        rw [hcall]
        exact Ne.symm hj
  | withdrawn hi hs he =>
      obtain ⟨e, he⟩ := Option.isSome_iff_exists.mp he
      exact .ofKnown he
  | @removed name i hi he =>
      rw [List.append_nil]
      intro _ j sub hsub
      have hj : j ≠ i := by
        rintro rfl
        cases (SortedMap.get?_erase_self _ _).symm.trans hsub
      exact h he j sub ((SortedMap.get?_erase_of_ne _ hj).symm.trans hsub)
  | renewed hm he => exact .ofKnown (epoch_renewed _ b)
  | known hm he => exact .ofKnown (epoch_counted _ b)
  | delivered hm he hs hid => exact .ofKnown (epoch_counted _ b)
  | degraded value hcause =>
      intro _ i sub hsub
      have hmap := (SortedMap.get?_map _ _ _).symm.trans hsub
      obtain ⟨old, hold, rfl⟩ := Option.map_eq_some_iff.mp hmap
      exact told_lossNotes now js hold
  | stopped => exact absurd rfl hact
  | sent answer hp => exact h.same rfl rfl

end Telling

section Degradation

/-- The act gives the producer up: the session is lost, or a watchdog finds the known run silent. -/
def Degrades (act : Act β H) (b b' : Book H) : Prop :=
  act = .lose ∨ (∃ k, act = .look k) ∧ b.liveness.epoch.isSome = true ∧ b'.liveness.epoch = none

variable {link : Link β} {act : Act β H} {y : Adapter H × Scene β H}

/-- A degradation is told to every subscription, marks them as told, and changes nothing else of
what is registered or waits. -/
theorem perform_of_degrades (h : Degrades act y.1.book (perform link act y).1.book) :
    notes link act y = lossNotes y.2.now y.1.book.subscriptions.entries ∧
      (perform link act y).1.book.subscriptions =
        y.1.book.subscriptions.map (fun _ => served) ∧
      (perform link act y).1.book.pending = y.1.book.pending := by
  rcases h with rfl | ⟨⟨k, rfl⟩, hknown, hlost⟩
  · obtain ⟨m, hd⟩ := degrade_eq .bus y.1 y.2
    have hj : (perform link .lose y).2.journal.toList =
        y.2.journal.toList ++ lossNotes y.2.now y.1.book.subscriptions.entries := by
      rw [perform, transportError, hd]
      exact Array.toList_append
    refine ⟨notes_eq hj, ?_⟩
    rw [perform, transportError, hd]
    exact ⟨rfl, rfl⟩
  · obtain ⟨-, heff⟩ := effect_perform link (.look k) y
    revert heff hlost
    generalize events link (.look k) y = ev
    generalize notes link (.look k) y = ns
    generalize (perform link (.look k) y).1.book = b'
    intro hlost heff
    cases heff with
    | quiet value =>
        have hnone : y.1.book.liveness.epoch = none := hlost
        simp [hnone] at hknown
    | degraded value hcause => exact ⟨rfl, rfl, rfl⟩

theorem calls_lossNotes (now : Nat) (es : List (Item × Subscription H)) :
    (lossNotes now es).filterMap Note.call? = es.map (fun e => inactiveCall now e.1 e.2) := by
  simp [lossNotes, Note.call?, Function.comp_def]

/-- A degradation makes one call for every subscription, in the order of the item names. -/
theorem calls_of_degrades (h : Degrades act y.1.book (perform link act y).1.book) :
    (calls link act y).map (fun c => (c.item, c.id, c.handle)) = y.1.book.enrolled ∧
      (calls link act y).Pairwise (fun c d => c.item.name < d.item.name) ∧
      (∀ c ∈ calls link act y, c.TellsInactive) := by
  obtain ⟨hnotes, -⟩ := perform_of_degrades h
  rw [calls, hnotes, calls_lossNotes]
  refine ⟨?_, ?_, ?_⟩
  · rw [List.map_map]
    rfl
  · rw [List.pairwise_map]
    exact y.1.book.subscriptions.ascending.imp Item.name_lt_of_compare
  · intro c hc
    obtain ⟨e, -, rfl⟩ := List.mem_map.mp hc
    exact tellsInactive_inactiveCall _ e.1 e.2

theorem enrolled_of_degrades (h : Degrades act y.1.book (perform link act y).1.book) :
    (perform link act y).1.book.enrolled = y.1.book.enrolled := by
  obtain ⟨-, hsubs, -⟩ := perform_of_degrades h
  rw [Book.enrolled, hsubs]
  show List.map _ (List.map _ _) = _
  rw [List.map_map]
  rfl

end Degradation

variable {link : Link β} {x : Adapter H × Scene β H} {acts : List (Act β H)}

theorem informed_run (hx : IsFresh x) (hacts : .shutdown ∉ acts) :
    Informed (run link acts x).2.journal.toList (run link acts x).1.book := by
  refine run_induction (P := fun _ js b => Informed js b) hx ?_
    (fun hact heff h => h.step heff (fun hstop => hacts (hstop ▸ hact)))
  intro _ i sub hsub
  cases hsub

/-- After any run without a stop: if no producer run is known, every subscription has its snapshot,
and the last call for it told of no producer; and a degradation makes one such call for every
subscription, in the order of the item names, makes no other call, and leaves the ids, the handles
and the waiting requests as they are. -/
theorem told_inactive_while_down (hx : IsFresh x) (hacts : .shutdown ∉ acts) :
    ((run link acts x).1.epoch? = none → ∀ i sub,
      (run link acts x).1.book.subscriptions.get? i = some sub →
        sub.snapshotSent = true ∧
          ∃ c, LastCall i sub.id c (run link acts x).2.journal.toList ∧ c.handle = sub.handle ∧
            c.TellsInactive) ∧
      ∀ act, Degrades act (run link acts x).1.book (run link (acts ++ [act]) x).1.book →
        (calls link act (run link acts x)).map (fun c => (c.item, c.id, c.handle)) =
            (run link acts x).1.book.enrolled ∧
          (calls link act (run link acts x)).Pairwise (fun c d => c.item.name < d.item.name) ∧
          (∀ c ∈ calls link act (run link acts x), c.TellsInactive) ∧
          (run link (acts ++ [act]) x).1.book.enrolled = (run link acts x).1.book.enrolled ∧
          (run link (acts ++ [act]) x).1.book.pending = (run link acts x).1.book.pending := by
  refine ⟨informed_run hx hacts, fun act hact => ?_⟩
  rw [run_append, run_cons, run_nil] at hact ⊢
  obtain ⟨hcalls, horder, htells⟩ := calls_of_degrades hact
  obtain ⟨-, -, hpending⟩ := perform_of_degrades hact
  exact ⟨hcalls, horder, htells, enrolled_of_degrades hact, hpending⟩

/-- The demonstration: the session is lost behind an update, or a watchdog looks in vain. -/
theorem told_inactive_while_down_demo :
    (∃ c, LastCall demoItem 2 c
        (run Recorder.link (demoActs ++ [.receive demoPayload, .lose]) demoStart).2.journal.toList ∧
      c.handle = "second" ∧ c.TellsInactive) ∧
      (calls Recorder.link (.look 0) (run Recorder.link (demoActs ++ [.wait 300]) demoStart)).map
        (fun c => (c.item, c.id, c.handle)) = [(demoItem, 2, "second")] := by
  constructor
  · have hheld : ((run Recorder.link (demoActs ++ [.receive demoPayload, .lose])
        demoStart).1.book.subscriptions.get? demoItem).map (fun sub => (sub.id, sub.handle)) =
          some (2, "second") := by
      decide +kernel
    obtain ⟨sub, hsub, heq⟩ := Option.map_eq_some_iff.mp hheld
    obtain ⟨hid, hhandle⟩ := Prod.mk.inj heq
    obtain ⟨hdown, -⟩ := @told_inactive_while_down _ _ Recorder.link demoStart
      (demoActs ++ [.receive demoPayload, .lose]) demoStart_isFresh (by simp [demoActs])
    obtain ⟨-, c, hlast, hc, htells⟩ := hdown (by decide +kernel) demoItem sub hsub
    exact ⟨c, hid ▸ hlast, hc.trans hhandle, htells⟩
  · obtain ⟨-, hdegraded⟩ := @told_inactive_while_down _ _ Recorder.link demoStart
      (demoActs ++ [.wait 300]) demoStart_isFresh (by simp [demoActs])
    obtain ⟨hcalls, -⟩ := hdegraded (.look 0)
      (Or.inr ⟨⟨0, rfl⟩, by decide +kernel, by decide +kernel⟩)
    exact hcalls.trans (by decide +kernel)

end Adapter
end QuoteBridge
