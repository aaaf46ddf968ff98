import QuoteBridge.Proofs.Adapter.Run
import QuoteBridge.Proofs.Message.Spelling

/-!
# Runs with other names for the items

Two runs of an adapter whose acts differ only in the names they give the items are one and the same
run.

**Acts.**  A name stands in the consumer's calls and in the updates that come in.  Either may use
any name of its item; a text that names none is the same in both runs.

**Answers.**  The end of a subscription that there is not is refused with the name it was given.
No other answer, and nothing else of what the adapter does, depends on the name.

**Results.**
* `Adapter.perform_respells`, `Adapter.events_respells`: one act.
* `Adapter.runs_respell`: whole runs from any state.
-/

namespace QuoteBridge
namespace Adapter

variable {β H : Type}

section Relations

/-- The acts differ in how they name an item, at most. -/
inductive Act.Respells : Act β H → Act β H → Prop
  | same (act : Act β H) : Respells act act
  | subscribe {name name' : String} (handle : H) (h : Item.Respells name name') :
      Respells (.subscribe name handle) (.subscribe name' handle)
  | unsubscribe {name name' : String} (h : Item.Respells name name') :
      Respells (.unsubscribe name) (.unsubscribe name')
  | receive {p p' : Payload} (h : Message.RespellsPayload p p') :
      Respells (.receive p) (.receive p')

/-- The entries tell of the same answer to calls that differ in how they name an item, at most.  A
refused end of a subscription has the name of the call. -/
inductive Event.Respells : Event H → Event H → Prop
  | same (entry : Event H) : Respells entry entry
  | subscribed {name name' : String} (handle : H)
      (answer : Except SubscriptionError SubscriptionId) (h : Item.Respells name name') :
      Respells (.subscribed name handle answer) (.subscribed name' handle answer)
  | unsubscribed {name name' : String} (answer : Except SubscriptionError Unit)
      (h : Item.Respells name name') :
      Respells (.unsubscribed name answer) (.unsubscribed name' answer)
  | notSubscribed {name name' : String} (h : Item.Respells name name') :
      Respells (.unsubscribed name (.error (.notSubscribed name)))
        (.unsubscribed name' (.error (.notSubscribed name')))

/-- The request that an entry tells of as handed to the bus, with the bus's answer. -/
def Event.handed? : Event H → Option (Request × BusResult)
  | .sent r answer => some (r, answer)
  | _ => none

theorem Event.Respells.handed? {entry entry' : Event H} (h : entry.Respells entry') :
    entry.handed? = entry'.handed? := by
  cases h <;> rfl

theorem filterMap_handed? {es es' : List (Event H)} (h : List.Forall₂ Event.Respells es es') :
    es.filterMap Event.handed? = es'.filterMap Event.handed? := by
  induction h with
  | nil => rfl
  | cons he _ ih => simp only [List.filterMap_cons, he.handed?, ih]

end Relations

section Calls

variable {name name' : String} (h : Item.Respells name name')

include h

/-- A subscription does not depend on which name of the item it gives. -/
theorem subscribe_respells (handle : H) (a : Adapter H) (s : Scene β H) :
    subscribe name handle a s = subscribe name' handle a s := by
  obtain rfl | ⟨i, hi, hi'⟩ := h
  · rfl
  · simp only [subscribe, hi, hi']

/-- Nor does the end of one, but for the name in a refusal. -/
theorem unsubscribe_respells (a : Adapter H) :
    (unsubscribe name a).2 = (unsubscribe name' a).2 ∧
      (Event.unsubscribed name (unsubscribe name a).1 : Event H).Respells
        (.unsubscribed name' (unsubscribe name' a).1) := by
  obtain rfl | ⟨i, hi, hi'⟩ := id h
  · exact ⟨rfl, .same _⟩
  · cases hs : a.book.subscriptions.get? i with
    | none =>
        rw [unsubscribe_of_none hi hs, unsubscribe_of_none hi' hs]
        exact ⟨rfl, .notSubscribed h⟩
    | some sub =>
        rw [unsubscribe_of_some hi hs, unsubscribe_of_some hi' hs]
        exact ⟨rfl, .unsubscribed _ h⟩

end Calls

section Runs

variable (link : Link β)

/-- An act does the same to the adapter and its surroundings whichever names it gives. -/
theorem perform_respells {act act' : Act β H} (h : act.Respells act') (x : Adapter H × Scene β H) :
    perform link act x = perform link act' x := by
  cases h with
  | same => rfl
  | subscribe handle h => simp only [perform, subscribe_respells h handle x.1 x.2]
  | unsubscribe h => simp only [perform, (unsubscribe_respells h x.1).1]
  | receive h => simp only [perform, receive, Message.decode_respells h]

theorem handed_respells {act act' : Act β H} (h : act.Respells act') (x : Adapter H × Scene β H) :
    handed link act x = handed link act' x := by
  by_cases hact : act = .send
  · subst hact
    cases h
    rfl
  · have hact' : act' ≠ .send := by
      rintro rfl
      cases h
      exact hact rfl
    rw [handed_of_ne_send x hact, handed_of_ne_send x hact']

theorem answers_respells {act act' : Act β H} (h : act.Respells act')
    (x : Adapter H × Scene β H) :
    List.Forall₂ Event.Respells (answers act x) (answers act' x) := by
  have hsame : ∀ es : List (Event H), List.Forall₂ Event.Respells es es :=
    fun es => List.forall₂_same.mpr (fun entry _ => .same entry)
  cases h with
  | same => exact hsame _
  | subscribe handle h =>
      simp only [answers, subscribe_respells h handle x.1 x.2]
      exact .cons (.subscribed handle _ h) .nil
  | unsubscribe h => exact .cons (unsubscribe_respells h x.1).2 .nil
  | receive h =>
      simp only [answers, renewal?, Message.decode_respells h]
      exact hsame _

theorem events_respells {act act' : Act β H} (h : act.Respells act') (x : Adapter H × Scene β H) :
    List.Forall₂ Event.Respells (events link act x) (events link act' x) := by
  rw [events, events, handed_respells link h x]
  exact List.rel_append (answers_respells h x)
    (List.forall₂_same.mpr (fun entry _ => .same entry))

variable {acts acts' : List (Act β H)}

theorem run_respells (h : List.Forall₂ Act.Respells acts acts') (x : Adapter H × Scene β H) :
    run link acts x = run link acts' x := by
  induction h generalizing x with
  | nil => rfl
  | cons hact _ ih => rw [run_cons, run_cons, perform_respells link hact, ih]

theorem history_respells (h : List.Forall₂ Act.Respells acts acts') (x : Adapter H × Scene β H) :
    List.Forall₂ Event.Respells (history link acts x) (history link acts' x) := by
  induction h generalizing x with
  | nil => exact .nil
  | cons hact _ ih =>
      simp only [history, perform_respells link hact]
      exact List.rel_append (events_respells link hact x) (ih _)

/-- Two runs whose acts differ only in the names of the items go through the same states, make the
same calls of the consumer, hand the same requests to the bus, and give the same answers but for
the name in a refusal. -/
theorem runs_respell (h : List.Forall₂ Act.Respells acts acts') (x : Adapter H × Scene β H) :
    (∀ n, run link (acts.take n) x = run link (acts'.take n) x) ∧
    (run link acts x).2.deliveries = (run link acts' x).2.deliveries ∧
    (history link acts x).filterMap Event.handed? =
      (history link acts' x).filterMap Event.handed? ∧
    List.Forall₂ Event.Respells (history link acts x) (history link acts' x) := by
  have hhistory := history_respells link h x
  refine ⟨fun n => run_respells link (List.forall₂_take n h) x, ?_, filterMap_handed? hhistory,
    hhistory⟩
  rw [run_respells link h]

/-- The demonstration with an update and the end of a subscription that there is not. -/
def demoSpelled (first second third fourth : String) : List (Act Recorder String) :=
  [.start, .dial 0, .subscribe first "first", .receive (Message.heartbeat 5).encode, .send,
    .subscribe second "second", .send,
    .receive (String.ofList (Message.updateNaming third demoUpdate).write).toUTF8,
    .unsubscribe fourth]

/-- Zeros and a sign in the names leave the demonstration as it is. -/
theorem runs_respell_demo :
    let acts := demoSpelled "item7" "item07" "item7" "item9"
    let acts' := demoSpelled "item007" "item+7" "item+07" "item09"
    (run Recorder.link acts demoStart).2.deliveries =
        (run Recorder.link acts' demoStart).2.deliveries ∧
      (run Recorder.link acts demoStart).2.deliveries.size = 2 ∧
      (history Recorder.link acts' demoStart).getLast? =
        some (.unsubscribed "item09" (.error (.notSubscribed "item09"))) := by
  have hseven : ∀ {name name'}, Item.parse name = .ok demoItem → Item.parse name' = .ok demoItem →
      Item.Respells name name' := fun h h' => Or.inr ⟨demoItem, h, h'⟩
  have hacts : List.Forall₂ Act.Respells (demoSpelled "item7" "item07" "item7" "item9")
      (demoSpelled "item007" "item+7" "item+07" "item09") :=
    .cons (.same _) (.cons (.same _) (.cons (.subscribe _ (hseven rfl rfl)) (.cons (.same _)
      (.cons (.same _) (.cons (.subscribe _ (hseven rfl rfl)) (.cons (.same _)
        (.cons (.receive (Message.respells_updateNaming (hseven rfl rfl) demoUpdate))
          (.cons (.unsubscribe (Or.inr ⟨⟨⟨8, by decide⟩⟩, rfl, rfl⟩)) .nil))))))))
  have h := runs_respell Recorder.link hacts demoStart
  exact ⟨h.2.1, by decide +kernel, by decide +kernel⟩

end Runs

end Adapter
end QuoteBridge
