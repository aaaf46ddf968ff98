import QuoteBridge.Bus.Link

/-!
# A bus that records

A recorder answers attempts to connect from a script and keeps a list of all calls and of the
payloads it accepted.  Behind the end of the script every attempt succeeds at once.
-/

namespace QuoteBridge

/-- A scripted answer; `label` is how it shows in the list of calls. -/
structure ScriptedDial where
  label : String
  dial : Dial

/-- The answer behind the end of a script. -/
def ScriptedDial.plain : ScriptedDial := ⟨"\"ok\"", ⟨none, .ok ()⟩⟩

/-- A call of the recorder. -/
inductive RecordedCall
  | connect (time : Nat) (label : String)
  | reset (time : Nat)
  | listener (time : Nat)

/-- A payload that the recorder accepted. -/
structure RecordedSend where
  time : Nat
  channel : Channel
  payload : Payload

/-- The recorder.  While `failing` holds an error every send fails with it. -/
structure Recorder where
  script : List ScriptedDial
  failing : Option BusError
  calls : Array RecordedCall
  sent : Array RecordedSend

namespace Recorder

/-- A recorder with a script. -/
def create (script : List ScriptedDial) : Recorder := ⟨script, none, #[], #[]⟩

/-- Answers an attempt to connect. -/
def connect (now : Nat) (r : Recorder) : Dial × Recorder :=
  let entry := r.script.headD .plain
  (entry.dial,
    { r with script := r.script.tail, calls := r.calls.push (.connect now entry.label) })

/-- Accepts a payload, or fails. -/
def send (now : Nat) (ch : Channel) (p : Payload) (r : Recorder) : BusResult × Recorder :=
  match r.failing with
  | some e => (.error e, r)
  | none => (.ok (), { r with sent := r.sent.push ⟨now, ch, p⟩ })

/-- Access to the recorder. -/
def link : Link Recorder where
  connect := connect
  reset now r := { r with calls := r.calls.push (.reset now) }
  send := send
  listen now r := { r with calls := r.calls.push (.listener now) }

end Recorder

end QuoteBridge
