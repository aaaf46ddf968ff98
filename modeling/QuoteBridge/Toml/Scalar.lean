import QuoteBridge.Text.Digit
import QuoteBridge.Toml.Value

/-!
# TOML numbers, dates and truth values

**Integers** have 64 bits with a sign.  A decimal one has no leading zeros; one in another base
begins with `0x`, `0o` or `0b` and has no sign.  Single underscores may stand between digits.

**Reals** are refused if they are too large for 64 bits, unless they are negative.

**Order.**  A text is read as a date or time if it can be, else as a real, else as an integer.
-/

namespace QuoteBridge
namespace Toml

section Digits

/-- The digits that go on after a digit, underscores between them left out. -/
def moreDigits (base : Nat) : List Char → List Nat × List Char
  | [] => ([], [])
  | '_' :: c :: cs =>
      match Text.digit? base c with
      | some d => let r := moreDigits base cs; (d :: r.1, r.2)
      | none => ([], '_' :: c :: cs)
  | c :: cs =>
      match Text.digit? base c with
      | some d => let r := moreDigits base cs; (d :: r.1, r.2)
      | none => ([], c :: cs)

/-- One or more digits. -/
def readDigits? (base : Nat) : List Char → Option (List Nat × List Char)
  | [] => none
  | c :: cs =>
      (Text.digit? base c).map (fun d => let r := moreDigits base cs; (d :: r.1, r.2))

def digitsValue (base : Nat) (ds : List Nat) : Nat := ds.foldl (fun a d => a * base + d) 0

/-- Exactly `n` decimal digits, without underscores. -/
def fixedDigits? : Nat → List Char → Option (List Nat × List Char)
  | 0, cs => some ([], cs)
  | _ + 1, [] => none
  | n + 1, c :: cs =>
      match Text.digit? 10 c with
      | none => none
      | some d => (fixedDigits? n cs).map (fun p => (d :: p.1, p.2))

/-- A number of exactly `n` decimal digits between two bounds. -/
def fixedNumber? (n low high : Nat) (cs : List Char) : Option (Nat × List Char) :=
  match fixedDigits? n cs with
  | none => none
  | some (ds, rest) =>
      let v := digitsValue 10 ds
      if low ≤ v ∧ v ≤ high then some (v, rest) else none

/-- The rest of a text behind one given character. -/
def expect? (c : Char) : List Char → Option (List Char)
  | [] => none
  | d :: cs => if d = c then some cs else none

end Digits

section Moments

/-- Number of days of a month. -/
def daysOf (year month : Nat) : Nat :=
  if month = 2 then
    if year % 4 = 0 ∧ (year % 100 ≠ 0 ∨ year % 400 = 0) then 29 else 28
  else if month ∈ [4, 6, 9, 11] then 30
  else 31

/-- The rest of a text behind a date. -/
def afterDate? (cs : List Char) : Option (List Char) := do
  let (year, cs) ← fixedNumber? 4 0 9999 cs
  let cs ← expect? '-' cs
  let (month, cs) ← fixedNumber? 2 1 12 cs
  let cs ← expect? '-' cs
  let (_, cs) ← fixedNumber? 2 1 (daysOf year month) cs
  return cs

/-- The rest of a text behind the fraction of a second, if one stands here. -/
def afterFraction (cs : List Char) : List Char :=
  match cs with
  | '.' :: c :: rest => if c.isDigit then rest.dropWhile Char.isDigit else cs
  | _ => cs

/-- The rest of a text behind a time of day. -/
def afterTime? (cs : List Char) : Option (List Char) := do
  let (_, cs) ← fixedNumber? 2 0 23 cs
  let cs ← expect? ':' cs
  let (_, cs) ← fixedNumber? 2 0 59 cs
  let cs ← expect? ':' cs
  let (_, cs) ← fixedNumber? 2 0 60 cs
  return afterFraction cs

/-- The rest of a text behind hours and minutes. -/
def afterHours? (cs : List Char) : Option (List Char) := do
  let (_, cs) ← fixedNumber? 2 0 23 cs
  let cs ← expect? ':' cs
  let (_, cs) ← fixedNumber? 2 0 59 cs
  return cs

/-- The rest of a text behind an offset, if one stands here. -/
def afterOffset (cs : List Char) : List Char :=
  match cs with
  | 'Z' :: rest => rest
  | 'z' :: rest => rest
  | '+' :: rest => (afterHours? rest).getD cs
  | '-' :: rest => (afterHours? rest).getD cs
  | _ => cs

/-- The rest of a text behind a time that belongs to a date, if one stands here. -/
def afterDateTime (cs : List Char) : List Char :=
  match cs with
  | c :: rest =>
      if c = 'T' ∨ c = 't' ∨ c = ' ' then ((afterTime? rest).map afterOffset).getD cs else cs
  | [] => cs

/-- The rest of a text behind a date, a time, or both. -/
def afterMoment? (cs : List Char) : Option (List Char) :=
  match afterDate? cs with
  | some rest => some (afterDateTime rest)
  | none => afterTime? cs

end Moments

section Numbers

/-- The sign of a number, if one stands here: whether it is a minus, and the rest. -/
def readSign (cs : List Char) : Bool × List Char :=
  match cs with
  | '+' :: rest => (false, rest)
  | '-' :: rest => (true, rest)
  | _ => (false, cs)

/-- Decimal digits without leading zeros. -/
def readWhole? : List Char → Option (List Nat × List Char)
  | '0' :: cs => some ([0], cs)
  | cs => readDigits? 10 cs

/-- The exponent of a real. -/
def readExponent? (cs : List Char) : Option (Int × List Char) :=
  match cs with
  | c :: rest =>
      if c = 'e' ∨ c = 'E' then
        let s := readSign rest
        (readDigits? 10 s.2).map
          (fun p =>
            let n : Int := digitsValue 10 p.1
            (if s.1 then -n else n, p.2))
      else none
  | [] => none

/-- The part of a real that follows its whole digits: more digits, and the exponent. -/
def readFractional? (cs : List Char) : Option (List Nat × Int × List Char) :=
  match cs with
  | '.' :: rest =>
      (readDigits? 10 rest).map
        (fun p =>
          let e := (readExponent? p.2).getD (0, p.2)
          (p.1, e.1, e.2))
  | _ => (readExponent? cs).map (fun e => ([], e.1, e.2))

/-- The least number that no finite real of 64 bits is nearest to. -/
def endOfReals : Nat := (1 <<< 1024) - (1 <<< 970)

/-- Whether the number with some digits and an exponent is above the reals of 64 bits, which have
at most 309 whole digits. -/
def isAboveReals (digits : List Nat) (exponent : Int) : Bool :=
  match digits.dropWhile (· = 0) with
  | [] => false
  | ds =>
      let whole : Int := ds.length + exponent
      if whole < 309 then false
      else if 309 < whole then true
      else
        endOfReals * Nat.pow 10 (-exponent).toNat ≤
          digitsValue 10 ds * Nat.pow 10 exponent.toNat

/-- The rest of a text behind a real.  One above the reals of 64 bits is refused, one below them
is not. -/
def afterReal? (cs : List Char) : Option (List Char) :=
  let s := readSign cs
  match s.2 with
  | 'i' :: 'n' :: 'f' :: rest => some rest
  | 'n' :: 'a' :: 'n' :: rest => some rest
  | body => do
      let (whole, rest) ← readWhole? body
      let (more, exponent, rest) ← readFractional? rest
      if !s.1 && isAboveReals (whole ++ more) (exponent - more.length) then none else some rest

/-- An integer if it fits into 64 bits. -/
def fitting? (n : Int) : Option Int :=
  if Int64.minValue.toInt ≤ n ∧ n ≤ Int64.maxValue.toInt then some n else none

/-- An integer in another base. -/
def readBased? (base : Nat) (cs : List Char) : Option (Int × List Char) :=
  match readDigits? base cs with
  | none => none
  | some (ds, rest) => (fitting? (digitsValue base ds)).map (fun n => (n, rest))

/-- A decimal integer. -/
def readDecimal? (cs : List Char) : Option (Int × List Char) :=
  let s := readSign cs
  match readWhole? s.2 with
  | none => none
  | some (ds, rest) =>
      let v : Int := digitsValue 10 ds
      (fitting? (if s.1 then -v else v)).map (fun n => (n, rest))

def readInteger? (cs : List Char) : Option (Int × List Char) :=
  match cs with
  | '0' :: 'x' :: rest => readBased? 16 rest
  | '0' :: 'o' :: rest => readBased? 8 rest
  | '0' :: 'b' :: rest => readBased? 2 rest
  | _ => readDecimal? cs

end Numbers

/-- A truth value. -/
def readBool? : List Char → Option (Bool × List Char)
  | 't' :: 'r' :: 'u' :: 'e' :: rest => some (true, rest)
  | 'f' :: 'a' :: 'l' :: 's' :: 'e' :: rest => some (false, rest)
  | _ => none

/-- A value that is neither a string nor made of other values. -/
def readScalar? (cs : List Char) : Option (Value × List Char) :=
  match readBool? cs with
  | some (b, rest) => some (.bool b, rest)
  | none =>
      match afterMoment? cs with
      | some rest => some (.moment, rest)
      | none =>
          match afterReal? cs with
          | some rest => some (.real, rest)
          | none => (readInteger? cs).map (fun p => (.integer p.1, p.2))

end Toml
end QuoteBridge
