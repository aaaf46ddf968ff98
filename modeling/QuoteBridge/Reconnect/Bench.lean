import QuoteBridge.Metrics
import QuoteBridge.Reconnect
import QuoteBridge.SortedMap
import QuoteBridge.Timeline

/-!
# A bench for supervisors

Several supervisors share one generation number.  Their attempts follow scripts, and a script may
make a newer generation at any point of a round.
-/

namespace QuoteBridge

/-- One scripted attempt.  The flags tell whether a newer generation is made when it begins and
when it is over. -/
structure Attempt where
  label : String
  dial : Dial
  newBefore : Bool
  newAfter : Bool

/-- The attempt behind the end of a script. -/
def Attempt.plain : Attempt := ⟨"\"ok\"", ⟨none, .ok ()⟩, false, false⟩

/-- A supervisor with its script.  `resetScript` tells for each reset whether a newer generation is
made, and `newOnConnected` whether one is made at the end. -/
structure Trial where
  name : String
  side : Role
  supervisor : Supervisor
  script : List Attempt
  resetScript : List Bool
  newOnConnected : Bool
  newAfter : Bool

/-- What a supervisor did. -/
inductive TrialEvent
  | reset
  | connect (label : String)
  | connected
  | ended (outcome : Outcome)

/-- An entry of the bench's log. -/
structure TrialEntry where
  time : Nat
  who : String
  event : TrialEvent

structure Bench where
  now : Nat
  newest : Nat
  tokens : SortedMap String Nat
  trials : List Trial
  log : Array TrialEntry
  metrics : Metrics

namespace Bench

/-- The bench before anything happened. -/
def initial : Bench := ⟨0, 0, .empty, [], #[], .zero⟩

/-- Makes a newer generation. -/
def invalidate (b : Bench) : Bench := { b with newest := b.newest + 1 }

/-- Makes a newer generation if told so. -/
def invalidateIf (flag : Bool) (b : Bench) : Bench := if flag then b.invalidate else b

/-- Adds an entry to the log. -/
def note (who : String) (event : TrialEvent) (b : Bench) : Bench :=
  { b with log := b.log.push ⟨b.now, who, event⟩ }

/-- Makes a supervisor that never runs and keeps its token. -/
def keep (name : String) (b : Bench) : Bench :=
  { b.invalidate with tokens := b.tokens.insert name (b.newest + 1) }

/-- Makes a supervisor and lets it run. -/
def spawn (name : String) (side : Role) (pause : Nat) (script : List Attempt)
    (resetScript : List Bool) (newOnConnected : Bool) (b : Bench) : Bench :=
  { b.keep name with
    trials := b.trials ++
      [⟨name, side, .create (b.newest + 1) pause, script, resetScript, newOnConnected, false⟩] }

/-- What one supervisor does on the bench. -/
def dialer : Dialer (Trial × Bench) where
  newest w := w.2.newest
  reset w :=
    ({ w.1 with resetScript := w.1.resetScript.tail },
      (w.2.note w.1.name .reset).invalidateIf (w.1.resetScript.headD false))
  dial w :=
    let a := w.1.script.headD .plain
    (a.dial,
      { w.1 with script := w.1.script.tail, newAfter := a.newAfter },
      (w.2.note w.1.name (.connect a.label)).invalidateIf a.newBefore)
  arrived w := (w.1, w.2.invalidateIf w.1.newAfter)
  count ok w := (w.1, { w.2 with metrics := w.2.metrics.bump (.attempts w.1.side ok) })
  connected w := (w.1, (w.2.note w.1.name .connected).invalidateIf w.1.newOnConnected)

/-- Lets one supervisor go on. -/
def turn (t : Trial) (b : Bench) : Trial × Bench :=
  let r := t.supervisor.turn dialer b.now (t, b)
  let t' := { r.2.1 with supervisor := r.1 }
  match r.1.phase with
  | .finished o => (t', r.2.2.note t.name (.ended o))
  | _ => (t', r.2.2)

/-- Lets the first of the given supervisors that can go on do so; `done` are those before it. -/
def stepFrom (done : List Trial) (b : Bench) : List Trial → Option Bench
  | [] => none
  | t :: ts =>
      if t.supervisor.isDue b.now then
        let r := turn t b
        some { r.2 with trials := done ++ r.1 :: ts }
      else stepFrom (done ++ [t]) b ts

/-- The bench in virtual time. -/
def timeline : Timeline Bench where
  now b := b.now
  setNow t b := { b with now := t }
  step? b := stepFrom [] b b.trials
  nextWake? b := Timeline.earliest (b.trials.filterMap (fun t => t.supervisor.wake?))

end Bench

end QuoteBridge
