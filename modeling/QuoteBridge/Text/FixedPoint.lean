import QuoteBridge.Rounding
import QuoteBridge.Text.Numeral

/-!
# Numbers with two decimal places

A double is written with two decimal places.  Its exact value is rounded; a half goes to the even
neighbour.  A negative number keeps its sign even when it rounds to zero, and so does a negative
zero.
-/

namespace QuoteBridge

/-- Sign, exponent field and fraction field of a double. -/
structure DoubleParts where
  negative : Bool
  exponent : Nat
  fraction : Nat
  deriving DecidableEq, Repr

namespace DoubleParts

/-- The fields of a 64-bit pattern. -/
def ofBits (bits : UInt64) : DoubleParts where
  negative := 1 <<< 63 ≤ bits.toNat
  exponent := (bits.toNat >>> 52) % (1 <<< 11)
  fraction := bits.toNat % (1 <<< 52)

/-- Whether the value is infinite or no number. -/
def isSpecial (p : DoubleParts) : Bool := p.exponent = (1 <<< 11) - 1

/-- Magnitude of a finite double, in units of `2 ^ (-1074)`. -/
def magnitude (p : DoubleParts) : Nat :=
  if p.exponent = 0 then p.fraction
  else ((1 <<< 52) + p.fraction) <<< (p.exponent - 1)

/-- Magnitude of a finite double rounded to hundredths. -/
def hundredths (p : DoubleParts) : Nat := Rounding.nearest (p.magnitude * 100) (1 <<< 1074)

/-- A double with two decimal places. -/
def fixedPoint (p : DoubleParts) : String :=
  if p.isSpecial ∧ p.fraction ≠ 0 then "NaN"
  else
    (if p.negative then "-" else "") ++
      (if p.isSpecial then "inf"
       else
        Numeral.write (p.hundredths / 100) ++ "." ++ Numeral.writePadded (p.hundredths % 100))

end DoubleParts

end QuoteBridge
