/-!
# Rounding of quotients

A quotient of natural numbers is rounded to the nearest integer; a half goes to the even
neighbour.

**Results.**
* `two_mul_sub_le`: the rounded quotient is at most half a unit away.
-/

namespace QuoteBridge
namespace Rounding

/-- The integer nearest to `num / den`; a half goes to the even neighbour. -/
def nearest (num den : Nat) : Nat :=
  if 2 * (num % den) < den then num / den
  else if den < 2 * (num % den) then num / den + 1
  else if num / den % 2 = 0 then num / den
  else num / den + 1

/-- Number of binary digits. -/
def bitLength (n : Nat) : Nat := if n = 0 then 0 else Nat.log2 n + 1

/-- The nearest number with at most `bits` significant binary digits; a half goes to the even
neighbour. -/
def significant (bits n : Nat) : Nat :=
  nearest n (1 <<< (bitLength n - bits)) <<< (bitLength n - bits)

theorem two_mul_sub_le {num den : Nat} (h : 0 < den) :
    2 * (nearest num den * den) ≤ 2 * num + den ∧
      2 * num ≤ 2 * (nearest num den * den) + den := by
  have hd : den * (num / den) + num % den = num := Nat.div_add_mod num den
  have hm : num % den < den := Nat.mod_lt num h
  have e1 : num / den * den = den * (num / den) := Nat.mul_comm _ _
  have e2 : (num / den + 1) * den = den * (num / den) + den := by
    rw [Nat.add_mul, e1, Nat.one_mul]
  unfold nearest
  split
  · rw [e1]; omega
  · split
    · rw [e2]; omega
    · split
      · rw [e1]; omega
      · rw [e2]; omega

end Rounding
end QuoteBridge
