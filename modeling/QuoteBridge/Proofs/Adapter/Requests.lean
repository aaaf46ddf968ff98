import QuoteBridge.Proofs.Adapter.Run
import QuoteBridge.Proofs.Gate.Replay

/-!
# The producer's registry rebuilt from requests

While a producer run is known, the adapter's registry can be read off its requests: those that the
bus took since the run was taken up, and those that still wait.  Whatever registry the producer had
before, handling them in this order leaves it with the adapter's.

**Requests.**  The requests are those of the history, which are the ones that a bus notes.

**Results.**
* `Adapter.Rebuilds.step`: every effect of an act keeps this.
* `Adapter.requests_rebuild_registry`: it holds after every run in which no request was refused
  since the producer run was taken up.
-/

namespace QuoteBridge
namespace Adapter

variable {β H : Type}

section Rebuilding

/-- The request that the bus took. -/
def Event.taken? : Event H → Option Request
  | .sent r (.ok _) => some r
  | _ => none

/-- Whether the bus refused a request. -/
def Event.isRefusal : Event H → Bool
  | .sent _ (.error _) => true
  | _ => false

/-- Every request that was handed to the bus was taken. -/
def AllTaken (es : List (Event H)) : Prop := ∀ entry ∈ es, entry.isRefusal = false

/-- The known producer run was taken up at some point of the history, and no other one since.  If
no request was refused since then, the requests that were taken and those that wait turn any
registry into the book's. -/
def Rebuilds (es : List (Event H)) (b : Book H) : Prop :=
  ∀ e, b.liveness.epoch = some e → ∃ before after, es = before ++ .renewed e :: after ∧
    (∀ e', .renewed e' ∉ after) ∧
      (AllTaken after → ∀ (g : Gate) (i : Item),
        (g.applyAll (after.filterMap Event.taken? ++ b.pending)).id? i = b.id? i)

variable {es ev : List (Event H)} {b b' : Book H}

theorem Rebuilds.ofUnknown (h : b.liveness.epoch = none) : Rebuilds es b := by
  intro e he
  cases h.symm.trans he

/-- Only answers to the consumer come to the history, and the requests that come to wait do to the
ids of a registry what was done to the book's. -/
theorem Rebuilds.push (h : Rebuilds es b) (rs : List Request)
    (he : b'.liveness.epoch = b.liveness.epoch) (hp : b'.pending = b.pending ++ rs)
    (hrenewed : ∀ e, .renewed e ∉ ev) (hsent : ∀ r answer, .sent r answer ∉ ev)
    (hids : ∀ g : Gate, (∀ i, g.id? i = b.id? i) → ∀ i, (g.applyAll rs).id? i = b'.id? i) :
    Rebuilds (es ++ ev) b' := by
  intro e hknown
  obtain ⟨before, after, rfl, hlast, hall⟩ := h e (he.symm.trans hknown)
  refine ⟨before, after ++ ev, by simp, ?_, ?_⟩
  · intro e' hm
    rcases List.mem_append.mp hm with hm | hm
    · exact hlast e' hm
    · exact hrenewed e' hm
  · intro htaken g
    have hold := hall (fun entry hm => htaken entry (List.mem_append_left _ hm)) g
    have hnone : ev.filterMap Event.taken? = [] := by
      refine List.filterMap_eq_nil_iff.mpr (fun entry hm => ?_)
      cases entry with
      | sent r answer => exact absurd hm (hsent r answer)
      | subscribed name handle answer => rfl
      | unsubscribed name answer => rfl
      | renewed e => rfl
    rw [List.filterMap_append, hnone, List.append_nil, hp, ← List.append_assoc,
      Gate.applyAll_append]
    exact hids _ hold

/-- Nothing comes to wait, and the book's ids stay. -/
theorem Rebuilds.frame (h : Rebuilds es b) (he : b'.liveness.epoch = b.liveness.epoch)
    (hp : b'.pending = b.pending) (hrenewed : ∀ e, .renewed e ∉ ev)
    (hsent : ∀ r answer, .sent r answer ∉ ev) (hids : ∀ i, b'.id? i = b.id? i) :
    Rebuilds (es ++ ev) b' :=
  h.push [] he (by rw [hp, List.append_nil]) hrenewed hsent
    (fun _ hg i => (hg i).trans (hids i).symm)

theorem rebuilds_renewed (e : Epoch) : Rebuilds (es ++ [.renewed e]) (renewed e b) := by
  intro e' hknown
  rw [epoch_renewed] at hknown
  cases hknown
  refine ⟨es, [], rfl, by simp, fun _ g i => ?_⟩
  show (g.applyAll (b.observe e).2.replay).id? i = _
  rw [Gate.id?_applyAll_replay]
  exact (Book.id?_resubscribeAll i (b.observe e).2).symm

theorem Rebuilds.sent (h : Rebuilds es b) {r : Request} {rs : List Request} (answer : BusResult)
    (hp : b.pending = r :: rs) : Rebuilds (es ++ [.sent r answer]) { b with pending := rs } := by
  intro e hknown
  obtain ⟨before, after, rfl, hlast, hall⟩ := h e hknown
  refine ⟨before, after ++ [.sent r answer], by simp, by simpa using hlast, ?_⟩
  intro htaken g i
  have hold := hall (fun entry hm => htaken entry (List.mem_append_left _ hm)) g i
  cases answer with
  | error f => cases htaken (.sent r (.error f)) (by simp)
  | ok u =>
      have hrow : (after ++ [Event.sent r (.ok u)]).filterMap Event.taken? ++ rs =
          after.filterMap Event.taken? ++ b.pending := by
        simp [Event.taken?, hp]
      exact (congrArg (fun rs => (g.applyAll rs).id? i) hrow).trans hold

theorem Rebuilds.step {now : Nat} {act : Act β H} {ns : List (Note H)} (h : Rebuilds es b)
    (heff : Effect now b act ev ns b') : Rebuilds (es ++ ev) b' := by
  cases heff with
  | quiet value => exact h.frame rfl rfl (by simp) (by simp) (fun _ => rfl)
  | subscribeRefused name handle e => exact h.frame rfl rfl (by simp) (by simp) (fun _ => rfl)
  | unsubscribeRefused name e => exact h.frame rfl rfl (by simp) (by simp) (fun _ => rfl)
  | @requested name i handle hi he =>
      refine h.push [.subscribe i b.nextId] rfl rfl (by simp) (by simp) (fun g hg j => ?_)
      by_cases hj : j = i
      · subst hj
        rw [Book.id?_insert_self]
        exact g.id?_apply_subscribe_self j b.nextId
      · rw [Book.id?_insert_of_ne hj, ← hg]
        exact g.id?_apply_subscribe_of_ne hj b.nextId
  | registered handle hi he => exact .ofUnknown he
  | @withdrawn name i sub hi hs he =>
      refine h.push [.unsubscribe i sub.id] rfl rfl (by simp) (by simp) (fun g hg j => ?_)
      by_cases hj : j = i
      · subst hj
        have hid : g.id? j = some sub.id := by rw [hg, Book.id?, hs, Option.map_some]
        rw [Book.id?_remove_self]
        exact (g.id?_apply_unsubscribe_self j sub.id).trans (if_pos hid)
      · rw [Book.id?_remove_of_ne hj, ← hg]
        exact g.id?_apply_unsubscribe_of_ne hj sub.id
  | removed hi he => exact .ofUnknown he
  | renewed hm he => exact rebuilds_renewed _
  | known hm he =>
      exact h.frame ((epoch_counted _ b).trans he.symm) rfl (by simp) (by simp) (fun _ => rfl)
  | delivered hm he hs hid =>
      exact h.frame ((epoch_counted _ b).trans he.symm) rfl (by simp) (by simp)
        (fun i => Book.id?_setSnapshotSent i _ true _)
  | degraded value hcause => exact .ofUnknown rfl
  | stopped => exact .ofUnknown rfl
  | sent answer hp => exact h.sent answer hp

end Rebuilding

variable {link : Link β} {x : Adapter H × Scene β H} {acts : List (Act β H)}

/-- A run that leaves a producer run known.  A bus with notes has noted just the requests of the
history, with its answers.  If no request was refused since the last time that a producer run was
taken up, then the requests that were handed to the bus since, followed by those that wait, turn any
registry into the adapter's. -/
theorem requests_rebuild_registry {e : Epoch} (hx : IsFresh x)
    (he : (run link acts x).1.epoch? = some e) :
    (∀ ns, run link.noted (acts.map Act.noted) (withNotes ns x) =
      withNotes (ns ++ (history link acts x).filterMap Event.sending?) (run link acts x)) ∧
    ∃ before after, history link acts x = before ++ .renewed e :: after ∧
      (∀ e', .renewed e' ∉ after) ∧
        (AllTaken after → ∀ (g : Gate) (i : Item),
          (g.applyAll
            (after.filterMap Event.taken? ++ (run link acts x).1.book.pending)).id? i =
              (run link acts x).1.book.id? i) := by
  have hkept : Rebuilds (history link acts x) (run link acts x).1.book :=
    run_induction (P := fun es _ b => Rebuilds es b) hx (.ofUnknown rfl)
      (fun _ heff h => h.step heff)
  exact ⟨fun ns => run_withNotes ns x acts, hkept e he⟩

/-- The demonstration, with a request that still waits; a bus with notes has noted the other two. -/
theorem requests_rebuild_registry_demo :
    (run Recorder.link demoActs demoStart).1.book.pending = [.subscribe demoItem 2] ∧
      (run Recorder.link.noted (demoActs.map Act.noted) (withNotes [] demoStart)).2.bus.2 =
        [sendingOf .reset (.ok ()), sendingOf (.subscribe demoItem 1) (.ok ())] ∧
      ∃ before after, history Recorder.link demoActs demoStart = before ++ .renewed 5 :: after ∧
        AllTaken after ∧ ∀ (g : Gate) (i : Item),
          (g.applyAll (after.filterMap Event.taken? ++ [.subscribe demoItem 2])).id? i =
            (run Recorder.link demoActs demoStart).1.book.id? i := by
  have hwaits : (run Recorder.link demoActs demoStart).1.book.pending =
      [.subscribe demoItem 2] := by
    decide +kernel
  have htaken : AllTaken (history Recorder.link demoActs demoStart) := by
    rw [history_demoActs]
    simp [AllTaken, Event.isRefusal]
  have hknown : (run Recorder.link demoActs demoStart).1.epoch? = some 5 := by decide +kernel
  obtain ⟨hnoted, before, after, h, -, hall⟩ :=
    requests_rebuild_registry demoStart_isFresh hknown
  have hafter : AllTaken after := by
    intro entry hm
    refine htaken entry ?_
    rw [h]
    exact List.mem_append_right _ (List.mem_cons_of_mem _ hm)
  refine ⟨hwaits, ?_, before, after, h, hafter, ?_⟩
  · rw [hnoted, history_demoActs]
    rfl
  · rw [← hwaits]
    exact hall hafter

end Adapter
end QuoteBridge
