import QuoteBridge.Text.Digit

/-!
# Unsigned numerals

An unsigned numeral is one optional `+` followed by ASCII decimal digits; leading zeros are fine.
Its value has to stay below a bound.

**Order of faults.**  The digits are read from left to right and the first fault decides.  At one
place a character that is no digit comes before a value that is too large.
-/

namespace QuoteBridge

/-- Why a text is no numeral below a bound. -/
inductive NumeralFault
  | empty
  | invalidDigit
  | tooLarge
  deriving DecidableEq, Repr

def NumeralFault.message : NumeralFault → String
  | .empty => "cannot parse integer from empty string"
  | .invalidDigit => "invalid digit found in string"
  | .tooLarge => "number too large to fit in target type"

namespace Numeral

/-- Reads the digits that follow the value `acc`. -/
def readFrom (bound : Nat) (acc : Nat) : List Char → Except NumeralFault Nat
  | [] => .ok acc
  | c :: cs =>
      match Text.digit? 10 c with
      | none => .error .invalidDigit
      | some d =>
          if acc * 10 + d < bound then readFrom bound (acc * 10 + d) cs
          else .error .tooLarge

/-- Reads a numeral whose value is below `bound`. -/
def read (bound : Nat) : List Char → Except NumeralFault Nat
  | [] => .error .empty
  | ['+'] => .error .invalidDigit
  | '+' :: cs => readFrom bound 0 cs
  | cs => readFrom bound 0 cs

/-- Decimal digits of a number, without leading zeros. -/
def write (n : Nat) : String := toString n

/-- Decimal digits of a number, padded with zeros to two places. -/
def writePadded (n : Nat) : String := if n < 10 then "0" ++ write n else write n

end Numeral

end QuoteBridge
