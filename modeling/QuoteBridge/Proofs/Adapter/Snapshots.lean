import QuoteBridge.Proofs.Adapter.Journal
import QuoteBridge.Proofs.Adapter.Run

/-!
# One snapshot for each registration and each producer run

The first call for a subscription since its registration, and the first one since each new producer
run, is its snapshot, and no other call is.  It does not matter whether the call brings an update
of the producer or tells that there is none.

**Results.**
* `Adapter.Accounted.step`: every effect of an act keeps the subscriptions' flags in accord with
  the journal.
* `Adapter.isSnapshot_iff_first_call`: which calls are snapshots, and what the calls without a
  producer bring.
-/

namespace QuoteBridge
namespace Adapter

variable {β H : Type}

section Since

/-- A call was made for a subscription since the last new producer run. -/
def CalledSince (i : Item) (n : SubscriptionId) (ns : List (Note H)) : Prop :=
  ∃ before c after, ns = before ++ .called c :: after ∧ c.item = i ∧ c.id = n ∧
    ∀ t e, .heard t e true ∉ after

variable {i : Item} {n : SubscriptionId} {ns : List (Note H)} {note : Note H}

theorem not_calledSince_nil : ¬ CalledSince i n ([] : List (Note H)) := by
  rintro ⟨before, c, after, h, -⟩
  simp at h

theorem calledSince_concat :
    CalledSince i n (ns ++ [note]) ↔
      (∃ c, note = .called c ∧ c.item = i ∧ c.id = n) ∨
        CalledSince i n ns ∧ ∀ t e, note ≠ .heard t e true := by
  constructor
  · rintro ⟨before, c, after, h, hi, hn, hafter⟩
    rcases concat_eq_append_cons h with ⟨rfl, rfl, rfl⟩ | ⟨rest, rfl, rfl⟩
    · exact Or.inl ⟨c, rfl, hi, hn⟩
    · refine Or.inr ⟨⟨before, c, rest, rfl, hi, hn, fun t e hm => ?_⟩, fun t e hnew => ?_⟩
      · exact hafter t e (List.mem_append_left _ hm)
      · exact hafter t e (by simp [hnew])
  · rintro (⟨c, rfl, hi, hn⟩ | ⟨⟨before, c, after, rfl, hi, hn, hafter⟩, hnew⟩)
    · exact ⟨ns, c, [], rfl, hi, hn, by simp⟩
    · refine ⟨before, c, after ++ [note], by simp, hi, hn, fun t e hm => ?_⟩
      rcases List.mem_append.mp hm with hm | hm
      · exact hafter t e hm
      · exact hnew t e (List.mem_singleton.mp hm).symm

end Since

section Accounting

/-- The journal tells of the registration of a subscription, and of a later call for it since the
last new producer run just if its snapshot was given out. -/
def Standing (i : Item) (sub : Subscription H) (js : List (Note H)) : Prop :=
  ∃ earlier later, js = earlier ++ .subscribed i sub.id :: later ∧
    (∀ n, .subscribed i n ∉ later) ∧ (sub.snapshotSent = true ↔ CalledSince i sub.id later)

/-- What is noted before a call allows it. -/
structure Allowed (js : List (Note H)) (c : Delivery H) : Prop where
  flagged : ∃ earlier later, js = earlier ++ .subscribed c.item c.id :: later ∧
    (∀ n, .subscribed c.item n ∉ later) ∧
      (c.isSnapshot = true ↔ ¬ CalledSince c.item c.id later)
  inactive : c.kind = .inactive →
    c.fields = if c.isSnapshot then inactiveSnapshot else inactiveDelta

/-- Every subscription stands as the journal tells, and every call was allowed. -/
structure Accounted (js : List (Note H)) (subs : SortedMap Item (Subscription H)) : Prop where
  standing : ∀ {i sub}, subs.get? i = some sub → Standing i sub js
  allowed : ∀ {before c after}, js = before ++ .called c :: after → Allowed before c

variable {i : Item} {sub : Subscription H} {js : List (Note H)}
  {subs : SortedMap Item (Subscription H)}

theorem Standing.concat (h : Standing i sub js) {note : Note H}
    (hreg : ∀ n, note ≠ .subscribed i n) {sent : Bool}
    (hsent : sent = true ↔ (∃ c, note = .called c ∧ c.item = i ∧ c.id = sub.id) ∨
      sub.snapshotSent = true ∧ ∀ t e, note ≠ .heard t e true) :
    Standing i { sub with snapshotSent := sent } (js ++ [note]) := by
  obtain ⟨earlier, later, rfl, hlater, hflag⟩ := h
  refine ⟨earlier, later ++ [note], by simp, fun n hm => ?_, ?_⟩
  · rcases List.mem_append.mp hm with hm | hm
    · exact hlater n hm
    · exact hreg n (List.mem_singleton.mp hm).symm
  · rw [calledSince_concat, ← hflag]
    exact hsent

theorem Accounted.allowed_concat (h : Accounted js subs) {note : Note H}
    (hcall : ∀ c, note = .called c → Allowed js c) {before after : List (Note H)} {c : Delivery H}
    (hj : js ++ [note] = before ++ .called c :: after) : Allowed before c := by
  rcases concat_eq_append_cons hj with ⟨rfl, rfl, rfl⟩ | ⟨rest, rfl, rfl⟩
  · exact hcall c rfl
  · exact h.allowed rfl

theorem Accounted.heard (h : Accounted js subs) (t : Nat) (e : Epoch) :
    Accounted (js ++ [.heard t e false]) subs := by
  constructor
  · intro i sub hsub
    exact (h.standing hsub).concat (by simp) (by simp)
  · intro before c after hj
    exact h.allowed_concat (by simp) hj

theorem Accounted.renewed (h : Accounted js subs) (t : Nat) (e : Epoch) :
    Accounted (js ++ [.heard t e true])
      (subs.map (fun _ sub => { sub with snapshotSent := false })) := by
  constructor
  · intro i sub hsub
    rw [SortedMap.get?_map] at hsub
    obtain ⟨old, hold, rfl⟩ := Option.map_eq_some_iff.mp hsub
    exact (h.standing hold).concat (by simp) (by simp)
  · intro before c after hj
    exact h.allowed_concat (by simp) hj

theorem Accounted.registered (h : Accounted js subs) (i : Item) (n : SubscriptionId) (handle : H) :
    Accounted (js ++ [.subscribed i n]) (subs.insert i ⟨n, handle, false⟩) := by
  constructor
  · intro j sub hsub
    by_cases hj : j = i
    · subst hj
      rw [SortedMap.get?_insert_self] at hsub
      cases hsub
      exact ⟨js, [], rfl, by simp, by simp [not_calledSince_nil]⟩
    · rw [SortedMap.get?_insert_of_ne _ hj] at hsub
      exact (h.standing hsub).concat (by simp [Ne.symm hj]) (by simp)
  · intro before c after hj
    exact h.allowed_concat (by simp) hj

theorem Accounted.removed (h : Accounted js subs) (i : Item) : Accounted js (subs.erase i) := by
  constructor
  · intro j sub hsub
    have hj : j ≠ i := by
      rintro rfl
      rw [SortedMap.get?_erase_self] at hsub
      cases hsub
    rw [SortedMap.get?_erase_of_ne _ hj] at hsub
    exact h.standing hsub
  · exact h.allowed

/-- A call for a registered subscription that claims its snapshot. -/
theorem Accounted.called (h : Accounted js subs) {c : Delivery H}
    (hsub : subs.get? c.item = some sub) (hid : c.id = sub.id)
    (hflag : c.isSnapshot = !sub.snapshotSent)
    (hfields : c.kind = .inactive →
      c.fields = if sub.snapshotSent then inactiveDelta else inactiveSnapshot) :
    Accounted (js ++ [.called c]) (subs.modify c.item served) := by
  constructor
  · intro j sub' hsub'
    by_cases hj : j = c.item
    · subst hj
      rw [SortedMap.get?_modify_self, hsub] at hsub'
      cases hsub'
      exact (h.standing hsub).concat (by simp) (by simp [hid])
    · rw [SortedMap.get?_modify_of_ne _ hj] at hsub'
      exact (h.standing hsub').concat (by simp) (by simp [Ne.symm hj])
  · intro before c' after hj
    refine h.allowed_concat (fun c'' hc => ?_) hj
    cases hc
    obtain ⟨earlier, later, hjs, hlater, hstands⟩ := h.standing hsub
    rw [← hid] at hjs hstands
    refine ⟨⟨earlier, later, hjs, hlater, ?_⟩, fun hkind => ?_⟩
    · rw [← hstands, hflag]
      simp
    · rw [hfields hkind, hflag]
      cases sub.snapshotSent <;> rfl

/-- The calls that tell of a loss, for the last entries of the book. -/
theorem Accounted.lost (now : Nat) {before es : List (Item × Subscription H)}
    (h : Accounted js subs) (hes : subs.entries = before ++ es) :
    ∃ subs', subs'.entries = before ++ es.map (fun e => (e.1, served e.2)) ∧
      Accounted (js ++ lossNotes now es) subs' := by
  induction es generalizing before js subs with
  | nil => exact ⟨subs, by simpa using hes, by simpa [lossNotes] using h⟩
  | cons e es ih =>
      have hsub : subs.get? e.1 = some e.2 := subs.mem_entries_iff.mp (by simp [hes])
      have hcalled := h.called (c := inactiveCall now e.1 e.2) hsub rfl rfl (fun _ => rfl)
      have hserved : (subs.modify e.1 served).entries = (before ++ [(e.1, served e.2)]) ++ es := by
        rw [subs.entries_modify_append hes]
        simp
      obtain ⟨subs', hsubs', h'⟩ := ih hcalled hserved
      refine ⟨subs', by simpa using hsubs', ?_⟩
      simpa [lossNotes] using h'

variable {now : Nat} {b b' : Book H} {act : Act β H} {ev : List (Event H)} {ns : List (Note H)}

theorem Accounted.step (h : Accounted js b.subscriptions) (heff : Effect now b act ev ns b') :
    Accounted (js ++ ns) b'.subscriptions := by
  have hsame : Accounted (js ++ []) b.subscriptions := by
    rw [List.append_nil]
    exact h
  cases heff with
  | quiet value => exact hsame
  | subscribeRefused name handle e => exact hsame
  | unsubscribeRefused name e => exact hsame
  | @requested name i handle hi he => exact h.registered i b.nextId handle
  | @registered name i handle hi he =>
      have hnew := h.registered i b.nextId handle
      have hcalled := hnew.called (c := inactiveCall now i ⟨b.nextId, handle, false⟩)
        (SortedMap.get?_insert_self _ _ _) rfl rfl (fun _ => rfl)
      rw [List.append_assoc] at hcalled
      exact hcalled
  | @withdrawn name i sub hi hs he =>
      rw [List.append_nil]
      exact h.removed i
  | @removed name i hi he =>
      rw [List.append_nil]
      exact h.removed i
  | @renewed p msg hm he => exact h.renewed now msg.epoch
  | @known p msg hm he => exact h.heard now msg.epoch
  | @delivered p u sub hm he hs hid =>
      have hcalled := (h.heard now u.epoch).called (c := updateCall now u sub) hs rfl rfl
        (fun hkind => absurd hkind (kind_updateCall now u sub))
      rw [List.append_assoc] at hcalled
      exact hcalled
  | degraded value hcause =>
      obtain ⟨subs', hsubs', h'⟩ := h.lost now (List.nil_append _).symm
      have hmap : subs' = b.subscriptions.map (fun _ => served) := SortedMap.ext hsubs'
      exact hmap ▸ h'
  | stopped => exact hsame
  | sent answer hp => exact hsame

end Accounting

variable {link : Link β} {x : Adapter H × Scene β H} {acts : List (Act β H)}

theorem accounted_run (hx : IsFresh x) :
    Accounted (run link acts x).2.journal.toList (run link acts x).1.book.subscriptions := by
  refine run_induction (P := fun _ js b => Accounted js b.subscriptions) hx ⟨?_, ?_⟩
    (fun _ heff h => h.step heff)
  · intro i sub hsub
    cases hsub
  · intro before c after hj
    simp at hj

/-- The full inactive snapshot has more fields than the status. -/
theorem inactiveSnapshot_ne_inactiveDelta : inactiveSnapshot ≠ inactiveDelta := by
  intro heq
  have hsize : inactiveSnapshot.size = inactiveDelta.size := congrArg SortedMap.size heq
  revert hsize
  decide +kernel

/-- Every call of a run was made for a subscription that was registered before and whose item was
not registered since.  It is a snapshot just if no other call was made for the subscription since
its registration and since the last new producer run.  A call that tells of no producer brings the
full inactive snapshot just if it is a snapshot, and else the change of the status alone. -/
theorem isSnapshot_iff_first_call (hx : IsFresh x) {before after : List (Note H)} {c : Delivery H}
    (hj : (run link acts x).2.journal.toList = before ++ .called c :: after) :
    (∃ earlier later, before = earlier ++ .subscribed c.item c.id :: later ∧
      (∀ n, .subscribed c.item n ∉ later) ∧
        (c.isSnapshot = true ↔ ¬ CalledSince c.item c.id later)) ∧
      (c.kind = .inactive →
        (c.fields = inactiveSnapshot ↔ c.isSnapshot = true) ∧
          (c.fields = inactiveDelta ↔ c.isSnapshot = false)) := by
  have hallowed := (accounted_run hx).allowed hj
  refine ⟨hallowed.flagged, fun hkind => ?_⟩
  rw [hallowed.inactive hkind]
  cases c.isSnapshot with
  | true => simp [inactiveSnapshot_ne_inactiveDelta]
  | false => simp [inactiveSnapshot_ne_inactiveDelta.symm]

/-- The demonstration, with an update and a loss behind it: the update is a snapshot, and so the
call that tells of the loss is none. -/
theorem isSnapshot_iff_first_call_demo :
    ∃ before c after,
      (run Recorder.link (demoActs ++ [.receive demoPayload, .lose]) demoStart).2.journal.toList =
          before ++ .called c :: after ∧
        c.kind = .inactive ∧ c.fields = inactiveDelta ∧
          ∃ earlier later, before = earlier ++ .subscribed c.item c.id :: later ∧
            CalledSince c.item c.id later := by
  have hlost : (run Recorder.link (demoActs ++ [.receive demoPayload, .lose])
      demoStart).2.journal.toList.any
        (fun n => n.call?.any (fun c => c.kind == .inactive && !c.isSnapshot)) = true := by
    decide +kernel
  obtain ⟨n, hn, hcall⟩ := List.any_eq_true.mp hlost
  obtain ⟨before, after, hj⟩ := List.append_of_mem hn
  cases n with
  | subscribed i n => cases hcall
  | heard t e b => cases hcall
  | called c =>
      obtain ⟨hkind, hflag⟩ : c.kind = .inactive ∧ c.isSnapshot = false := by
        simpa [Note.call?] using hcall
      obtain ⟨⟨earlier, later, hbefore, -, hfirst⟩, hfields⟩ :=
        isSnapshot_iff_first_call demoStart_isFresh hj
      refine ⟨before, c, after, hj, hkind, (hfields hkind).2.mpr hflag, earlier, later, hbefore, ?_⟩
      refine Classical.byContradiction (fun hnot => ?_)
      rw [hfirst.mpr hnot] at hflag
      cases hflag

end Adapter
end QuoteBridge
