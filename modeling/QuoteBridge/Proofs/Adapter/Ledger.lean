import QuoteBridge.Proofs.Adapter.Run
import QuoteBridge.Proofs.Metrics.Ledger

/-!
# The adapter's accounts

Every function of the adapter changes its scene by entries of the ledger.  A payload that comes in
is posted once, whatever becomes of it.

**Results.**
* `Adapter.booked_receive`: a payload is accounted for once.
* `Adapter.booked_perform`, `Adapter.booked_run`: so are all payloads of a run.
* `Adapter.renewals_run`: the journal has every producer run of the history.
-/

namespace QuoteBridge
namespace Adapter

open Scene

variable {β H : Type} {m : Meter β} {link : Link β}

section Updates

theorem booked_deliverInactive (i : Item) (a : Adapter H) (s : Scene β H) :
    Booked m s [] (deliverInactive i a s).2 := by
  cases hs : a.book.subscriptions.get? i with
  | none =>
      have hsame : deliverInactive i a s = (a, s) := by simp only [deliverInactive, hs]
      rw [hsame]
      exact .refl
  | some sub =>
      rw [deliverInactive_of_get? hs]
      exact (Entry.told (inactiveCall s.now i sub) rfl).booked

theorem booked_deliverInactiveAll (is : List Item) (a : Adapter H) (s : Scene β H) :
    Booked m s [] (deliverInactiveAll is a s).2 := by
  induction is generalizing a s with
  | nil => exact .refl
  | cons i is ih => exact (booked_deliverInactive i a s).trans (ih _ _)

theorem booked_degrade (cause : DownCause) (a : Adapter H) (s : Scene β H) :
    Booked m s [] (degrade cause a s).2 :=
  (Entry.aside 1 rfl).booked.trans (booked_deliverInactiveAll _ _ _)

/-- An update of the known run is given to the consumer or dropped. -/
theorem booked_deliver (u : Update) (a : Adapter H) (s : Scene β H) :
    Booked m s [.received] (deliver u a s).2 := by
  unfold deliver
  split
  · exact (Entry.received rfl).booked
  · rename_i sub _
    split
    · refine (Entry.given ⟨s.now, u.item, sub.id, if sub.snapshotSent then .delta else .snapshot,
        sub.handle, u.fields, !sub.snapshotSent⟩ ?_).booked
      cases sub.snapshotSent <;> simp
    · exact (Entry.received rfl).booked

theorem booked_observe (e : Epoch) (a : Adapter H) (s : Scene β H) :
    Booked m s [] (observe e a s).2.2 := by
  by_cases he : a.epoch? = some e
  · rw [observe_of_known he]
    exact (Entry.noted rfl rfl).booked
  · rw [observe_of_new he]
    exact (Entry.renewed s.now e).booked

theorem booked_handle (msg : Message) (a : Adapter H) (s : Scene β H) :
    Booked m s [.received] (handle msg a s).2 := by
  cases msg with
  | heartbeat e => exact (Entry.received rfl).booked.trans (booked_observe e a _)
  | update u =>
      have hseen := booked_observe (m := m) u.epoch a s
      unfold handle
      dsimp only
      split
      · rename_i a' s' ho
        rw [ho] at hseen
        exact hseen.trans (booked_deliver u a' s')
      · rename_i a' s' ho
        rw [ho] at hseen
        exact hseen.entry (.received rfl)

/-- A payload is accounted for once. -/
theorem booked_receive (p : Payload) (a : Adapter H) (s : Scene β H) :
    Booked m s [.received] (receive p a s).2 := by
  unfold receive
  split
  · exact (Entry.received rfl).booked
  · exact booked_handle _ a s

theorem booked_look (w : Watchdog) (a : Adapter H) (s : Scene β H) :
    Booked m s [] (look w a s).2.2 := by
  generalize hr : look w a s = r
  cases hr ▸ look_effect w a s with
  | silent he hl hc => exact booked_degrade .producer a s
  | moved he hl hc => exact .refl
  | retired h => exact .refl

theorem booked_watchFrom {a : Adapter H} {s : Scene β H} {r : Adapter H × Scene β H}
    {ws done : List Watchdog} (h : watchFrom a s done ws = some r) : Booked m s [] r.2 := by
  obtain ⟨before, w, after, -, -, rfl⟩ := watchFrom_cases h
  exact booked_look w a s

theorem booked_subscribe (name : String) (handle : H) (a : Adapter H) (s : Scene β H) :
    Booked m s [] (subscribe name handle a s).2.2 := by
  unfold subscribe
  split
  · exact .refl
  · rename_i i _
    have hnoted : Booked m s [] (s.note (.subscribed i (a.book.insert i handle).1)) :=
      (Entry.noted rfl rfl).booked
    dsimp only
    split
    · exact hnoted
    · exact hnoted.trans (booked_deliverInactive i _ _)

end Updates

section Sending

variable (hl : m.Reads link)
include hl

theorem booked_dispatchOne (r : Request) (a : Adapter H) (s : Scene β H) :
    Booked m s [] (dispatchOne link r a s).2 := by
  unfold dispatchOne
  dsimp only
  split
  · rename_i h
    exact Outbox.booked_counted hl rfl (congrArg (Volume.ofSend .requests) h).symm
  · rename_i e h
    exact Outbox.booked_counted hl rfl (congrArg (Volume.ofSend .requests) h).symm

theorem booked_sendNext (a : Adapter H) (s : Scene β H) : Booked m s [] (sendNext link a s).2 := by
  unfold sendNext
  split
  · exact .refl
  · exact booked_dispatchOne hl _ _ s

theorem booked_dispatchAll (rs : List Request) (a : Adapter H) (s : Scene β H) :
    Booked m s [] (dispatchAll link rs a s).2 := by
  induction rs generalizing a s with
  | nil => exact .refl
  | cons r rs ih => exact (booked_dispatchOne hl r a s).trans (ih _ _)

theorem booked_superviseFrom {a : Adapter H} {s : Scene β H} {r : Adapter H × Scene β H}
    {vs done : List Supervisor} (h : superviseFrom link a s done vs = some r) :
    Booked m s [] r.2 := by
  obtain ⟨v, others, left, w, rfl, rfl⟩ := superviseFrom_turn h
  refine Supervisor.turn_induction (dialer link)
    (P := fun w : Adapter H × Scene β H => Booked m s [] w.2)
    (fun w h => h.entry (.moved (hl.reset w.2.now w.2.bus)))
    (fun w h => h.entry (.moved (hl.connect w.2.now w.2.bus)))
    (fun w h => h) (fun _ w h => h.entry (.aside 1 rfl)) (fun w h => h) s.now v .refl

end Sending

section Runs

/-- The payload that an act brings in. -/
def Act.payload? : Act β H → Option Payload
  | .receive p => some p
  | _ => none

/-- Whether an act brings a payload in. -/
def Act.isReceive (act : Act β H) : Bool := act.payload?.isSome

/-- The postings of an act. -/
def Act.postings (act : Act β H) : List Posting := act.payload?.toList.map (fun _ => .received)

/-- An act is accounted for.  If the bus becomes another one, then one that has carried as much. -/
theorem booked_perform (hl : m.Reads link) (act : Act β H) (x : Adapter H × Scene β H)
    (hb : ∀ change, act = .changeBus change → m.carries x.2.bus 0 (change x.2.bus)) :
    Booked m x.2 act.postings (perform link act x).2 := by
  obtain ⟨a, s⟩ := x
  cases act with
  | start => exact (Entry.moved (hl.listen s.now s.bus)).booked
  | subscribe name handle => exact booked_subscribe name handle a s
  | unsubscribe name => exact .refl
  | receive p => exact booked_receive p a s
  | lose => exact booked_degrade .bus a s
  | send => exact booked_sendNext hl a s
  | endRound => exact .refl
  | dial place =>
      simp only [perform]
      cases hd : superviseFrom link a s (a.supervisors.take place) (a.supervisors.drop place) with
      | none => exact .refl
      | some r => exact booked_superviseFrom hl hd
  | look place =>
      simp only [perform]
      cases hw : watchFrom a s (a.watchdogs.take place) (a.watchdogs.drop place) with
      | none => exact .refl
      | some r => exact booked_watchFrom hw
  | shutdown => exact (Entry.moved (hl.reset s.now s.bus)).booked
  | release => exact .refl
  | wait span => exact (Entry.timed (s.now + span) s.clock).booked
  | changeBus change => exact (Entry.moved (hb change rfl)).booked

/-- Every payload of a run is accounted for once, at whatever bus. -/
theorem booked_run (link : Link β) (acts : List (Act β H)) (x : Adapter H × Scene β H) :
    Booked (.blind β) x.2 (acts.flatMap Act.postings) (run link acts x).2 := by
  induction acts generalizing x with
  | nil => exact .refl
  | cons act acts ih =>
      have hact := booked_perform (Meter.reads_blind link) act x (fun _ _ => trivial)
      exact hact.trans (ih (perform link act x))

theorem count_received_postings (acts : List (Act β H)) :
    (acts.flatMap Act.postings).count .received = acts.countP Act.isReceive := by
  induction acts with
  | nil => rfl
  | cons act acts ih =>
      rw [List.flatMap_cons, List.count_append, ih, List.countP_cons, Nat.add_comm]
      cases hp : act.payload? <;> simp [Act.postings, Act.isReceive, hp]

end Runs

section Renewals

/-- Whether an entry of the history is a producer run that was taken up. -/
def Event.isRenewal : Event H → Bool
  | .renewed _ => true
  | _ => false

theorem countP_isRenewal_lossNotes (now : Nat) (es : List (Item × Subscription H)) :
    (lossNotes now es).countP Scene.isRenewal = 0 := by
  refine List.countP_eq_zero.mpr (fun n hn => ?_)
  obtain ⟨e, -, rfl⟩ := List.mem_map.mp hn
  simp [Scene.isRenewal]

/-- The journal has every producer run of the history. -/
theorem renewals_run {x : Adapter H × Scene β H} (hx : IsFresh x) (acts : List (Act β H)) :
    (run link acts x).2.renewals = (history link acts x).countP Event.isRenewal := by
  refine (run_induction (P := fun es ns _ => es.countP Event.isRenewal =
    ns.countP Scene.isRenewal) hx rfl ?_).symm
  intro act now es js b ev ns b' _ heff h
  rw [List.countP_append, List.countP_append, h]
  cases heff with
  | degraded value hcause => rw [countP_isRenewal_lossNotes]; rfl
  | _ => rfl

/-- A producer run is taken up by replaying the subscriptions. -/
theorem book_of_renewed {act : Act β H} {x : Adapter H × Scene β H} {e : Epoch}
    (h : .renewed e ∈ events link act x) :
    (perform link act x).1.book = (x.1.book.observe e).2.resubscribeAll := by
  have heff := (effect_perform link act x).2
  generalize events link act x = ev at h heff
  generalize notes link act x = ns at heff
  generalize (perform link act x).1.book = b' at heff ⊢
  cases heff with
  | renewed hm he =>
      cases List.mem_singleton.mp h
      rfl
  | _ => simp at h

end Renewals

end Adapter
end QuoteBridge
