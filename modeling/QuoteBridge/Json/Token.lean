import QuoteBridge.Json.Value
import QuoteBridge.Text.Digit

/-!
# JSON tokens

A machine reads characters one by one and gives out tokens.

**Rules.**  Between tokens stand spaces, tabs, line feeds and carriage returns.  A number has no
leading zeros and digits on both sides of its point.  A text holds no control character below
U+0020; a surrogate is written only as the first or second half of a pair of `\u` escapes.
-/

namespace QuoteBridge
namespace Json

inductive Token
  | openArray
  | closeArray
  | openObject
  | closeObject
  | comma
  | colon
  | null
  | bool (b : Bool)
  | number (n : Number)
  | text (s : String)
  deriving DecidableEq, Repr

/-- The part of a number that was read last. -/
inductive Stage
  | minus
  | zero
  | whole
  | point
  | fraction
  | mark
  | sign
  | exponent
  deriving DecidableEq, Repr

/-- A number read so far; its digits stand in reverse order. -/
structure Figure where
  stage : Stage
  minus : Bool
  whole : List Nat
  fraction : List Nat
  lowered : Bool
  exponent : Nat
  deriving DecidableEq, Repr

namespace Figure

/-- Starts a number. -/
def begin? (c : Char) : Option Figure :=
  if c = '-' then some ⟨.minus, true, [], [], false, 0⟩
  else
    match Text.digit? 10 c with
    | none => none
    | some 0 => some ⟨.zero, false, [0], [], false, 0⟩
    | some d => some ⟨.whole, false, [d], [], false, 0⟩

/-- Goes on behind the digits of a number: to the point or to the exponent. -/
def leave? (f : Figure) (c : Char) : Option Figure :=
  if c = '.' ∧ f.stage ≠ .fraction then some { f with stage := .point }
  else if c = 'e' ∨ c = 'E' then some { f with stage := .mark }
  else none

/-- Goes on with one character, if it belongs to the number. -/
def extend? (f : Figure) (c : Char) : Option Figure :=
  match f.stage, Text.digit? 10 c with
  | .minus, some 0 => some { f with stage := .zero, whole := [0] }
  | .minus, some d => some { f with stage := .whole, whole := [d] }
  | .minus, none => none
  | .zero, some _ => none
  | .zero, none => f.leave? c
  | .whole, some d => some { f with whole := d :: f.whole }
  | .whole, none => f.leave? c
  | .point, some d => some { f with stage := .fraction, fraction := [d] }
  | .point, none => none
  | .fraction, some d => some { f with fraction := d :: f.fraction }
  | .fraction, none => f.leave? c
  | .mark, some d => some { f with stage := .exponent, exponent := d }
  | .mark, none =>
      if c = '+' then some { f with stage := .sign }
      else if c = '-' then some { f with stage := .sign, lowered := true }
      else none
  | .sign, some d => some { f with stage := .exponent, exponent := d }
  | .sign, none => none
  | .exponent, some d => some { f with exponent := f.exponent * 10 + d }
  | .exponent, none => none

/-- The number without its exponent. -/
def mantissa (f : Figure) : Number := ⟨f.minus, f.whole.reverse, f.fraction.reverse, none⟩

/-- The finished number, if it may end here and is finite. -/
def finish? (f : Figure) : Option Number :=
  let n : Option Number :=
    match f.stage with
    | .zero => some f.mantissa
    | .whole => some f.mantissa
    | .fraction => some f.mantissa
    | .exponent =>
        some { f.mantissa with exponent := some (if f.lowered then -(f.exponent : Int) else f.exponent) }
    | _ => none
  n.filter Number.isFinite

end Figure

/-- What the characters read so far are.  Texts stand in reverse order. -/
inductive Scan
  | between
  | word (rest : List Char) (token : Token)
  | figure (f : Figure)
  | text (acc : List Char)
  | escape (acc : List Char)
  | unit (acc : List Char) (count : Nat) (value : Nat)
  | pairMark (acc : List Char) (high : Nat)
  | pairEscape (acc : List Char) (high : Nat)
  | pairUnit (acc : List Char) (high : Nat) (count : Nat) (value : Nat)
  deriving DecidableEq, Repr

namespace Scan

/-- The character that a one-letter escape stands for. -/
def escaped? (c : Char) : Option Char :=
  if c = '"' then some '"'
  else if c = '\\' then some '\\'
  else if c = '/' then some '/'
  else if c = 'b' then some '\x08'
  else if c = 'f' then some '\x0c'
  else if c = 'n' then some '\n'
  else if c = 'r' then some '\r'
  else if c = 't' then some '\t'
  else none

/-- Whether a character may stand between tokens. -/
def isSpace (c : Char) : Bool := c = ' ' || c = '\t' || c = '\n' || c = '\r'

/-- The first character of a token. -/
def start? (c : Char) : Option (List Token × Scan) :=
  if isSpace c then some ([], .between)
  else if c = '[' then some ([.openArray], .between)
  else if c = ']' then some ([.closeArray], .between)
  else if c = '\x7b' then some ([.openObject], .between)
  else if c = '\x7d' then some ([.closeObject], .between)
  else if c = ',' then some ([.comma], .between)
  else if c = ':' then some ([.colon], .between)
  else if c = '"' then some ([], .text [])
  else if c = 'n' then some ([], .word ['u', 'l', 'l'] .null)
  else if c = 't' then some ([], .word ['r', 'u', 'e'] (.bool true))
  else if c = 'f' then some ([], .word ['a', 'l', 's', 'e'] (.bool false))
  else (Figure.begin? c).map (fun f => ([], .figure f))

/-- Goes on after the four digits of a `\u` escape. -/
def afterUnit? (acc : List Char) (v : Nat) : Option (List Token × Scan) :=
  if 0xD800 ≤ v ∧ v ≤ 0xDBFF then some ([], .pairMark acc v)
  else if 0xDC00 ≤ v ∧ v ≤ 0xDFFF then none
  else some ([], .text (Char.ofNat v :: acc))

/-- Goes on after the second escape of a pair. -/
def afterPair? (acc : List Char) (high v : Nat) : Option (List Token × Scan) :=
  if 0xDC00 ≤ v ∧ v ≤ 0xDFFF then
    some ([], .text (Char.ofNat (0x10000 + (high - 0xD800) * 0x400 + (v - 0xDC00)) :: acc))
  else none

/-- Reads one character: the tokens that it ends, and what the characters are then. -/
def step? : Scan → Char → Option (List Token × Scan)
  | .between, c => start? c
  | .word [] _, _ => none
  | .word [w] t, c => if c = w then some ([t], .between) else none
  | .word (w :: ws) t, c => if c = w then some ([], .word ws t) else none
  | .figure f, c =>
      match f.extend? c with
      | some f' => some ([], .figure f')
      | none =>
          match f.finish? with
          | none => none
          | some n => (start? c).map (fun r => (.number n :: r.1, r.2))
  | .text acc, c =>
      if c = '"' then some ([.text (String.ofList acc.reverse)], .between)
      else if c = '\\' then some ([], .escape acc)
      else if c < ' ' then none
      else some ([], .text (c :: acc))
  | .escape acc, c =>
      if c = 'u' then some ([], .unit acc 0 0)
      else (escaped? c).map (fun e => ([], .text (e :: acc)))
  | .unit acc count v, c =>
      match Text.hexDigit? c with
      | none => none
      | some d =>
          if count = 3 then afterUnit? acc (v * 16 + d)
          else some ([], .unit acc (count + 1) (v * 16 + d))
  | .pairMark acc high, c => if c = '\\' then some ([], .pairEscape acc high) else none
  | .pairEscape acc high, c => if c = 'u' then some ([], .pairUnit acc high 0 0) else none
  | .pairUnit acc high count v, c =>
      match Text.hexDigit? c with
      | none => none
      | some d =>
          if count = 3 then afterPair? acc high (v * 16 + d)
          else some ([], .pairUnit acc high (count + 1) (v * 16 + d))

/-- The last token, where the characters may end. -/
def finish? : Scan → Option (List Token)
  | .between => some []
  | .figure f => f.finish?.map (fun n => [.number n])
  | _ => none

/-- The tokens of the characters that follow. -/
def tokens? : Scan → List Char → Option (List Token)
  | s, [] => s.finish?
  | s, c :: cs =>
      match s.step? c with
      | none => none
      | some (ts, s') => (tokens? s' cs).map (ts ++ ·)

end Scan

end Json
end QuoteBridge
