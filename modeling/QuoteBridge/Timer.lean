/-!
# Timers

A timer rings after a span of time, counted in milliseconds, but after thirty years at the latest.

**Results.**
* `due_of_le`: spans up to thirty years are kept.
-/

namespace QuoteBridge
namespace Timer

/-- Thirty years of 365 days. -/
def longest : Nat := 30 * 365 * 24 * 60 * 60 * 1000

/-- The instant at which a timer of a given span rings that is set now. -/
def due (now span : Nat) : Nat := now + min span longest

theorem due_of_le {span : Nat} (now : Nat) (h : span ≤ longest) : due now span = now + span := by
  simp [due, Nat.min_eq_left h]

end Timer
end QuoteBridge
