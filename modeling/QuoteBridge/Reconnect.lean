import QuoteBridge.Bus.Link
import QuoteBridge.Timer

/-!
# Reconnect supervisors

A supervisor opens a bus session and tries again until it succeeds.  Each supervisor has a
generation; as soon as a newer generation exists it gives up.

**One round.**  A current supervisor closes the old session and dials.  After a success it reports
the connection if it is still current.  After a failure it rests for its pause, if it is still
current, and then begins another round.

**Counters.**  Generations are numbered in 64 bits; the numbers are taken not to run over, so that
each generation has its own.
-/

namespace QuoteBridge

/-- How a supervisor ends. -/
inductive Outcome
  | connected
  | superseded
  deriving DecidableEq, Repr

/-- What a supervisor waits for. -/
inductive Phase
  | ready
  | dialing (due : Nat) (result : BusResult)
  | resting (due : Nat)
  | finished (outcome : Outcome)

/-- One generation of the reconnect loop. -/
structure Supervisor where
  generation : Nat
  pause : Nat
  phase : Phase

/-- What a supervisor sees and does in surroundings of type `σ`.  `arrived` is what happens when an
attempt is over, before its result is looked at. -/
structure Dialer (σ : Type) where
  newest : σ → Nat
  reset : σ → σ
  dial : σ → Dial × σ
  arrived : σ → σ
  count : Bool → σ → σ
  connected : σ → σ

namespace Supervisor

/-- A supervisor that has not begun. -/
def create (generation pause : Nat) : Supervisor := ⟨generation, pause, .ready⟩

/-- The instant that the supervisor waits for. -/
def wake? (s : Supervisor) : Option Nat :=
  match s.phase with
  | .dialing due _ => some due
  | .resting due => some due
  | _ => none

/-- Whether the supervisor can go on. -/
def isDue (now : Nat) (s : Supervisor) : Bool :=
  match s.phase with
  | .ready => true
  | .dialing due _ => due ≤ now
  | .resting due => due ≤ now
  | .finished _ => false

/-- Whether an attempt is under way. -/
def isDialing (s : Supervisor) : Bool :=
  match s.phase with
  | .dialing _ _ => true
  | _ => false

/-- Whether the supervisor has ended. -/
def isFinished (s : Supervisor) : Bool :=
  match s.phase with
  | .finished _ => true
  | _ => false

variable {σ : Type} (d : Dialer σ)

/-- Whether no newer generation exists. -/
def isCurrent (s : Supervisor) (w : σ) : Bool := d.newest w = s.generation

/-- Ends as superseded. -/
def giveUp (s : Supervisor) : Supervisor := { s with phase := .finished .superseded }

/-- Looks at the result of an attempt. -/
def judge (now : Nat) (result : BusResult) (s : Supervisor) (w : σ) : Supervisor × σ :=
  match result with
  | .ok () =>
      if s.isCurrent d w then
        ({ s with phase := .finished .connected }, d.connected (d.count true w))
      else (s.giveUp, w)
  | .error _ =>
      let w' := d.count false w
      if s.isCurrent d w' then ({ s with phase := .resting (Timer.due now s.pause) }, w')
      else (s.giveUp, w')

def beginRound (now : Nat) (s : Supervisor) (w : σ) : Supervisor × σ :=
  if s.isCurrent d w then
    let dialed := d.dial (d.reset w)
    match dialed.1.delay with
    | none => s.judge d now dialed.1.result (d.arrived dialed.2)
    | some span => ({ s with phase := .dialing (Timer.due now span) dialed.1.result }, dialed.2)
  else (s.giveUp, w)

/-- Goes on as far as the present instant allows. -/
def turn (now : Nat) (s : Supervisor) (w : σ) : Supervisor × σ :=
  match s.phase with
  | .ready => s.beginRound d now w
  | .dialing due result => if due ≤ now then s.judge d now result (d.arrived w) else (s, w)
  | .resting due => if due ≤ now then s.beginRound d now w else (s, w)
  | .finished _ => (s, w)

/-- Lets the first of the given supervisors that can go on do so; `done` are those before it.  Those
that are left are put into the surroundings by `staff`. -/
def turnFirst (staff : List Supervisor → σ → σ) (now : Nat) (w : σ) (done : List Supervisor) :
    List Supervisor → Option σ
  | [] => none
  | v :: vs =>
      if v.isDue now then
        let r := v.turn d now (staff (done ++ vs) w)
        some (staff (if r.1.isFinished then done ++ vs else done ++ r.1 :: vs) r.2)
      else turnFirst staff now w (done ++ [v]) vs

/-- Whether something holds the owner of some supervisors: it was not released, or an attempt is
under way. -/
def holdsOwner (released : Bool) (vs : List Supervisor) : Bool := !released || vs.any isDialing

@[simp] theorem holdsOwner_false (vs : List Supervisor) : holdsOwner false vs = true := rfl

end Supervisor

end QuoteBridge
