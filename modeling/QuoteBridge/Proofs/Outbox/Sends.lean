import Mathlib.Data.List.Induction
import QuoteBridge.Bus.Recorder
import QuoteBridge.Outbox
import QuoteBridge.Proofs.Pool.Lending

/-!
# What an outbox sends

An outbox writes into bodies that were written before and gives them back whether the bus took them
or not.  Nothing of this shows: what it sends depends on nothing but the request or message, and it
never makes a second batch.

**Sends.**  Requests and messages are sent in any order over any link.  The link notes what it is
handed and what it answers; before each send the time and the bus may have become others, so that
every answer is possible.

**Results.**
* `Outbox.sendRequest_through`, `Outbox.publish_through`: what goes over the link.
* `Outbox.Rested.transmit`: an outbox with all its envelopes has them again behind a send.
* `Outbox.exists_create_iff`, `Outbox.rested_of_create`: there is an outbox for every size of a
  batch that a pool can have, and it has all its envelopes.
* `Outbox.sends_leave_no_trace`: what is handed to the link in any sequence of sends, what the
  sends return, and what the pools hold.
-/

namespace QuoteBridge

section Notes

variable {β : Type}

/-- A payload that was handed to a bus, and the answer. -/
structure Sending where
  channel : Channel
  payload : Payload
  answer : BusResult

/-- A bus with the payloads that were handed to it. -/
abbrev Noted (β : Type) := β × List Sending

/-- A link that notes what is handed over it. -/
def Link.noted (link : Link β) : Link (Noted β) where
  connect now b := ((link.connect now b.1).1, (link.connect now b.1).2, b.2)
  reset now b := (link.reset now b.1, b.2)
  send now ch p b :=
    let r := link.send now ch p b.1
    (r.1, r.2, b.2 ++ [⟨ch, p, r.1⟩])
  listen now b := (link.listen now b.1, b.2)

end Notes

namespace Outbox

variable {β H : Type} {batch : Nat} {o : Outbox}

section Payloads

/-- A request travels as the octets of its text. -/
theorem sendRequest_through (link : Link β) (r : Request) (o : Outbox) (s : Scene β H) :
    ∃ o' m, o.sendRequest link r s =
      ((link.send s.now .requests r.text.toUTF8 s.bus).1, o',
        { s with bus := (link.send s.now .requests r.text.toUTF8 s.bus).2, metrics := m }) := by
  simp only [sendRequest, transmit, Pool.body_acquire, ByteArray.empty_append]
  exact ⟨_, _, rfl⟩

/-- A message travels as its octets. -/
theorem publish_through (link : Link β) (msg : Message) (o : Outbox) (s : Scene β H) :
    ∃ o' m, o.publish link msg s =
      ((link.send s.now .updates msg.encode s.bus).1, o',
        { s with bus := (link.send s.now .updates msg.encode s.bus).2, metrics := m }) := by
  simp only [publish, transmit, Pool.body_acquire, Message.encodeInto, ByteArray.empty_append]
  exact ⟨_, _, rfl⟩

end Payloads

section Envelopes

/-- All envelopes are at home, and there is one batch of them on each channel. -/
def Rested (batch : Nat) (o : Outbox) : Prop :=
  ∀ ch, (o.pool ch).available = batch ∧ (o.pool ch).allocated = batch

theorem create_eq_ok_iff :
    create batch = .ok o ↔
      Pool.create 1 requestsLabel batch = .ok o.requests ∧
        Pool.create 2 updatesLabel batch = .ok o.updates := by
  obtain ⟨p, p'⟩ := o
  unfold create
  cases Pool.create 1 requestsLabel batch with
  | error e => simp [bind, Except.bind]
  | ok q =>
      cases Pool.create 2 updatesLabel batch with
      | error e => simp [bind, Except.bind]
      | ok q' => simp [bind, Except.bind, pure, Except.pure]

theorem exists_create_iff : (∃ o, create batch = .ok o) ↔ 0 < batch ∧ batch ≤ Pool.most := by
  constructor
  · rintro ⟨o, ho⟩
    exact Pool.exists_create_iff.mp ⟨o.requests, (create_eq_ok_iff.mp ho).1⟩
  · intro h
    obtain ⟨p, hp⟩ := Pool.exists_create_iff.mpr h
    obtain ⟨p', hp'⟩ := Pool.exists_create_iff.mpr h
    exact ⟨⟨p, p'⟩, create_eq_ok_iff.mpr ⟨hp, hp'⟩⟩

theorem create_of_most_lt (h : Pool.most < batch) : create batch = .error .capacityOverflow := by
  have hpos : 0 < batch := Nat.zero_lt_of_lt h
  simp [create, Pool.create, hpos, Nat.not_le.mpr h, bind, Except.bind]

/-- A new outbox has all its envelopes. -/
theorem rested_of_create (h : create batch = .ok o) : Rested batch o := by
  have hpool : ∀ {id label p}, Pool.create id label batch = .ok p →
      p.available = batch ∧ p.allocated = batch := by
    intro id label p hp
    obtain ⟨_, _, rfl⟩ := Pool.create_eq_ok_iff.mp hp
    simp [Pool.available, Pool.grow]
  obtain ⟨hrequests, hupdates⟩ := create_eq_ok_iff.mp h
  intro ch
  cases ch with
  | requests => exact hpool hrequests
  | updates => exact hpool hupdates

/-- An envelope that is given back, with whatever in it, is as if it had not been lent. -/
theorem giveBack_acquire {p : Pool} (h : 0 < p.available) (body : Payload) :
    (giveBack p.acquire.2 { p.acquire.1 with body := body }).available = p.available ∧
      (giveBack p.acquire.2 { p.acquire.1 with body := body }).allocated = p.allocated := by
  obtain ⟨hfree, hmade⟩ := Pool.acquire_of_pos h
  have hid : p.acquire.1.poolId = p.acquire.2.id := by
    rw [Pool.poolId_acquire, Pool.id_acquire]
  have hrel : p.acquire.2.release { p.acquire.1 with body := body } =
      .ok { p.acquire.2 with free := body :: p.acquire.2.free } :=
    Pool.release_eq_ok_iff.mpr ⟨hid, rfl⟩
  obtain ⟨hfree', hmade'⟩ := Pool.available_release hrel
  rw [giveBack, hrel]
  exact ⟨hfree'.trans hfree, hmade'.trans hmade⟩

theorem pool_setPool_self (o : Outbox) (ch : Channel) (p : Pool) :
    (o.setPool ch p).pool ch = p := by
  cases ch <;> rfl

theorem pool_setPool_of_ne (o : Outbox) {ch ch' : Channel} (h : ch' ≠ ch) (p : Pool) :
    (o.setPool ch p).pool ch' = o.pool ch' := by
  cases ch with
  | requests =>
      cases ch' with
      | requests => exact absurd rfl h
      | updates => rfl
  | updates =>
      cases ch' with
      | requests => rfl
      | updates => exact absurd rfl h

theorem Rested.transmit (h : Rested batch o) (hb : 0 < batch) (link : Link β) (ch : Channel)
    (write : Payload → Payload) (s : Scene β H) :
    Rested batch (transmit link ch write o s).2.1 := by
  intro ch'
  by_cases hch : ch' = ch
  · subst hch
    obtain ⟨hfree, hmade⟩ := h ch'
    obtain ⟨hfree', hmade'⟩ :=
      giveBack_acquire (hfree ▸ hb) (write (o.pool ch').acquire.1.body)
    simp only [Outbox.transmit, pool_setPool_self]
    exact ⟨hfree'.trans hfree, hmade'.trans hmade⟩
  · simp only [Outbox.transmit, pool_setPool_of_ne o hch]
    exact h ch'

end Envelopes

section Runs

/-- A request or a message to be sent. -/
inductive Call
  | request (r : Request)
  | message (m : Message)

/-- The channel that it is sent on. -/
def Call.channel : Call → Channel
  | .request _ => .requests
  | .message _ => .updates

/-- The octets that it is sent as. -/
def Call.payload : Call → Payload
  | .request r => r.text.toUTF8
  | .message m => m.encode

/-- What a link notes of it, with its answer. -/
def Call.sending (c : Call) (answer : BusResult) : Sending := ⟨c.channel, c.payload, answer⟩

/-- Sends a request or a message. -/
def send (link : Link β) (c : Call) (o : Outbox) (s : Scene β H) :
    BusResult × Outbox × Scene β H :=
  match c with
  | .request r => sendRequest link r o s
  | .message m => publish link m o s

/-- A send, or the time and the bus become others. -/
inductive Act (β : Type)
  | send (c : Call)
  | meanwhile (now : Nat) (bus : β)

/-- What an act sends. -/
def Act.call? : Act β → Option Call
  | .send c => some c
  | .meanwhile _ _ => none

/-- The calls of a list of acts. -/
def calls (acts : List (Act β)) : List Call := acts.filterMap Act.call?

/-- An outbox in use: what its sends have returned, and what is around it. -/
structure Usage (β H : Type) where
  returned : List BusResult
  outbox : Outbox
  scene : Scene (Noted β) H

def perform (link : Link β) (act : Act β) (x : Usage β H) : Usage β H :=
  match act with
  | .send c =>
      let r := send link.noted c x.outbox x.scene
      ⟨x.returned ++ [r.1], r.2.1, r.2.2⟩
  | .meanwhile now bus =>
      { x with scene := { x.scene with now := now, bus := (bus, x.scene.bus.2) } }

/-- Performs acts in turn. -/
def run (link : Link β) (acts : List (Act β)) (x : Usage β H) : Usage β H :=
  acts.foldl (fun x act => perform link act x) x

@[simp] theorem run_concat (link : Link β) (acts : List (Act β)) (act : Act β) (x : Usage β H) :
    run link (acts ++ [act]) x = perform link act (run link acts x) := by
  simp [run]

/-- One payload is handed to the link, the one of the call, and its answer is returned. -/
theorem handed_send (link : Link β) (c : Call) (o : Outbox) (s : Scene (Noted β) H) :
    (send link.noted c o s).2.2.bus.2 =
      s.bus.2 ++ [c.sending (send link.noted c o s).1] := by
  cases c with
  | request r =>
      obtain ⟨o', m, h⟩ := sendRequest_through link.noted r o s
      rw [send, h]
      rfl
  | message msg =>
      obtain ⟨o', m, h⟩ := publish_through link.noted msg o s
      rw [send, h]
      rfl

theorem Rested.send (h : Rested batch o) (hb : 0 < batch) (link : Link β) (c : Call)
    (s : Scene β H) : Rested batch (send link c o s).2.1 := by
  cases c with
  | request r => exact h.transmit hb link _ _ s
  | message m => exact h.transmit hb link _ _ s

/-- What is kept by every act, told of the calls so far and of what had been handed over before. -/
structure Traceless (batch : Nat) (before : List Sending) (cs : List Call) (x : Usage β H) :
    Prop where
  handed : x.scene.bus.2 = before ++ List.zipWith Call.sending cs x.returned
  returned : x.returned.length = cs.length
  rested : Rested batch x.outbox

variable {before : List Sending} {cs : List Call} {x : Usage β H}

theorem Traceless.perform (h : Traceless batch before cs x) (hb : 0 < batch) (link : Link β)
    (act : Act β) :
    Traceless batch before (cs ++ act.call?.toList) (perform link act x) := by
  cases act with
  | send c =>
      refine ⟨?_, ?_, h.rested.send hb _ c _⟩
      · show (Outbox.send link.noted c x.outbox x.scene).2.2.bus.2 = _
        have hzip : List.zipWith Call.sending (cs ++ [c])
            (x.returned ++ [(Outbox.send link.noted c x.outbox x.scene).1]) =
              List.zipWith Call.sending cs x.returned ++
                [c.sending (Outbox.send link.noted c x.outbox x.scene).1] :=
          List.zipWith_append h.returned.symm
        rw [handed_send, h.handed, List.append_assoc, ← hzip]
        rfl
      · simp [Outbox.perform, Act.call?, h.returned]
  | meanwhile now bus =>
      rw [Act.call?, Option.toList_none, List.append_nil]
      exact ⟨h.handed, h.returned, h.rested⟩

theorem Traceless.run (h : Traceless batch before [] x) (hb : 0 < batch) (link : Link β)
    (acts : List (Act β)) :
    Traceless batch before (calls acts) (run link acts x) := by
  induction acts using List.reverseRecOn with
  | nil => exact h
  | append_singleton acts act ih =>
      have hcalls : calls (acts ++ [act]) = calls acts ++ act.call?.toList := by
        cases act <;> simp [calls, Act.call?]
      rw [hcalls, run_concat]
      exact ih.perform hb link act

/-- There is an outbox just for the sizes of a batch that a pool can have.  Each call hands one
payload to the link, and it is a function of the call alone; the answer is returned; and behind any
calls all envelopes are at home and no more than one batch was made. -/
theorem sends_leave_no_trace (batch : Nat) (link : Link β) :
    ((∃ o, create batch = .ok o) ↔ 0 < batch ∧ batch ≤ Pool.most) ∧
      ∀ o, create batch = .ok o → ∀ (acts : List (Act β)) (s : Scene (Noted β) H),
        let x := run link acts ⟨[], o, s⟩
        x.scene.bus.2 = s.bus.2 ++ List.zipWith Call.sending (calls acts) x.returned ∧
          x.returned.length = (calls acts).length ∧
          ∀ ch, (x.outbox.pool ch).available = batch ∧ (x.outbox.pool ch).allocated = batch := by
  refine ⟨exists_create_iff, fun o ho acts s => ?_⟩
  have hb : 0 < batch := (exists_create_iff.mp ⟨o, ho⟩).1
  have hstart : Traceless batch s.bus.2 [] (⟨[], o, s⟩ : Usage β H) :=
    ⟨by simp, rfl, rested_of_create ho⟩
  have h := hstart.run hb link acts
  exact ⟨h.handed, h.returned, h.rested⟩

def demoItem : Item := ⟨⟨0, by decide⟩⟩

/-- A message, a request that the bus refuses, and a message that is shorter than both. -/
def demoCalls : List Call :=
  [.message (.update ⟨demoItem, .ofList [("ask", "101.50"), ("bid", "101.25")], true, 7, 3⟩),
   .request (.subscribe demoItem 7),
   .message (.heartbeat 3)]

/-- Before each of the calls the bus is one that accepts messages only. -/
def demoActs : List (Act Recorder) :=
  demoCalls.flatMap fun c =>
    [.meanwhile 1
      { Recorder.create [] with
        failing := if c.channel = .requests then some .connectionLost else none },
     .send c]

/-- The refused request is handed over as it is, and so is the message behind it. -/
theorem sends_leave_no_trace_demo :
    ∃ o, create 2 = .ok o ∧
      let x : Usage Recorder String :=
        run Recorder.link demoActs ⟨[], o, .initial 0 (.create [], [])⟩
      x.returned = [.ok (), .error .connectionLost, .ok ()] ∧
        x.scene.bus.2 =
          List.zipWith Call.sending demoCalls [.ok (), .error .connectionLost, .ok ()] ∧
        ∀ ch, (x.outbox.pool ch).available = 2 ∧ (x.outbox.pool ch).allocated = 2 := by
  obtain ⟨hmade, hsends⟩ := sends_leave_no_trace (H := String) 2 Recorder.link
  obtain ⟨o, ho⟩ := hmade.mpr (by decide)
  obtain ⟨hhanded, -, hpools⟩ := hsends o ho demoActs (.initial 0 (.create [], []))
  refine ⟨o, ho, ?_⟩
  cases ho
  exact ⟨rfl, hhanded, hpools⟩

end Runs

end Outbox
end QuoteBridge
