import QuoteBridge.Timer

/-!
# Virtual time

A timeline runs a system whose timers fire at whole instants.  All work of one instant is finished
before time moves on, and time moves from one timer to the next.

**Fuel.**  One instant takes at most `stepLimit` steps; a system that makes work for itself without
end is stopped there.
-/

namespace QuoteBridge

/-- A system in virtual time.  `step?` does one piece of the work that is left at this instant, and
`nextWake?` tells the next timer. -/
structure Timeline (σ : Type) where
  now : σ → Nat
  setNow : Nat → σ → σ
  step? : σ → Option σ
  nextWake? : σ → Option Nat

namespace Timeline

variable {σ : Type} (tl : Timeline σ)

/-- Bound on the steps of one instant. -/
def stepLimit : Nat := 1000000000

/-- Does at most `fuel` pieces of work. -/
def work : Nat → σ → σ
  | 0, s => s
  | fuel + 1, s =>
      match tl.step? s with
      | none => s
      | some s' => work fuel s'

/-- Finishes the work of this instant. -/
def settle (s : σ) : σ := tl.work stepLimit s

/-- Moves on to `target` over at most `fuel` timers. -/
def advance (target : Nat) : Nat → σ → σ
  | 0, s => s
  | fuel + 1, s =>
      match tl.nextWake? s with
      | none => tl.setNow target s
      | some t =>
          if t ≤ target then advance target fuel (tl.settle (tl.setNow t s))
          else tl.setNow target s

/-- Lets the time of a timer pass.  Work that is left at this instant is finished first. -/
def sleep (span : Nat) (s : σ) : σ :=
  if span = 0 then s else tl.advance (Timer.due (tl.now s) span) span (tl.settle s)

/-- The least of some instants. -/
def earliest : List Nat → Option Nat
  | [] => none
  | t :: ts =>
      match earliest ts with
      | none => some t
      | some u => some (min t u)

end Timeline

end QuoteBridge
