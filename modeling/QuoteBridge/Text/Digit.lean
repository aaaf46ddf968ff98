/-!
# Digits

The ASCII digits and the letters from `a` to `f`, small or capital, are the digits of the bases up
to sixteen.  Characters have numbers, and some numbers have no character.

**Results.**
* `lt_of_digit?_eq_some`: a digit is below its base.
-/

namespace QuoteBridge
namespace Text

/-- Value of a digit in base sixteen. -/
def hexDigit? (c : Char) : Option Nat :=
  if '0' ≤ c ∧ c ≤ '9' then some (c.toNat - '0'.toNat)
  else if 'a' ≤ c ∧ c ≤ 'f' then some (c.toNat - 'a'.toNat + 10)
  else if 'A' ≤ c ∧ c ≤ 'F' then some (c.toNat - 'A'.toNat + 10)
  else none

/-- Value of a digit in a base up to sixteen. -/
def digit? (base : Nat) (c : Char) : Option Nat := (hexDigit? c).filter (· < base)

/-- The character with a number. -/
def character? (n : Nat) : Option Char :=
  if h : n.isValidChar then some (Char.ofNatAux n h) else none

theorem lt_of_digit?_eq_some {base d : Nat} {c : Char} (h : digit? base c = some d) :
    d < base := by
  have hd := (Option.filter_eq_some_iff.mp h).2
  simpa using hd

end Text
end QuoteBridge
