import QuoteBridge.Rounding

/-!
# JSON values

A value keeps its numbers as they are written and its members in the order in which they stand,
repeated keys included.

**Range of numbers.**  A number is read through a significand of 64 bits: leading digits are taken
while they fit, and of the digits left out only those before the point raise the exponent.  The
number is finite when rounding the significand, the power of ten and their product to doubles
gives a finite double.
-/

namespace QuoteBridge
namespace Json

/-- A number as it is written: a sign, the digits before and behind the point, and an exponent. -/
structure Number where
  minus : Bool
  whole : List Nat
  fraction : List Nat
  exponent : Option Int
  deriving DecidableEq, Repr

/-- A JSON value. -/
inductive Value
  | null
  | bool (b : Bool)
  | number (n : Number)
  | text (s : String)
  | array (items : List Value)
  | object (members : List (String × Value))
  deriving Inhabited, Repr

namespace Number

/-- Significands and natural numbers are below this bound. -/
def wordBound : Nat := UInt64.size

/-- Value of a list of decimal digits that follows the value `acc`. -/
def valueFrom (acc : Nat) (digits : List Nat) : Nat :=
  digits.foldl (fun a d => a * 10 + d) acc

/-- The number as a natural number, if it is written as one and fits into 64 bits. -/
def natural? (n : Number) : Option Nat :=
  if n.minus = false ∧ n.fraction = [] ∧ n.exponent = none ∧ valueFrom 0 n.whole < wordBound then
    some (valueFrom 0 n.whole)
  else none

/-- Extends a significand by digits while it fits, and counts the digits left out. -/
def takeDigits (acc : Nat) : List Nat → Nat × Nat
  | [] => (acc, 0)
  | d :: ds => if acc * 10 + d < wordBound then takeDigits (acc * 10 + d) ds else (acc, ds.length + 1)

/-- The significand and its power of ten. -/
def scaled (n : Number) : Nat × Int :=
  let whole := takeDigits 0 n.whole
  let all := takeDigits whole.1 n.fraction
  (all.1, n.exponent.getD 0 + whole.2 - (n.fraction.length - all.2 : Nat))

/-- The largest power of ten that is a finite double. -/
def maxPower : Nat := 308

/-- Products from this bound on round to an infinite double. -/
def overflowBound : Nat := (1 <<< 1024) - (1 <<< 970)

/-- Whether the number is in the range of finite doubles. -/
def isFinite (n : Number) : Bool :=
  let s := n.scaled
  s.1 = 0 ||
    match s.2 with
    | .negSucc _ => true
    | .ofNat k =>
        k ≤ maxPower &&
          Rounding.significant 53 s.1 * Rounding.significant 53 (Nat.pow 10 k) < overflowBound

/-- The digits of a natural number. -/
def digits (n : Nat) : List Nat := (Nat.toDigits 10 n).map (fun c => c.toNat - '0'.toNat)

/-- A natural number as it is written. -/
def ofNat (n : Nat) : Number := ⟨false, digits n, [], none⟩

end Number

end Json
end QuoteBridge
