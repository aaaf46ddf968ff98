import QuoteBridge.Pattern.Modes
import QuoteBridge.Text.Digit

/-!
# Escapes of a pattern

A backslash makes a character of punctuation stand for itself, and gives some letters a meaning.
Numbers of characters in braces, classes by Unicode property and references to groups are refused.
-/

namespace QuoteBridge
namespace Pattern

/-- What a backslash and the characters behind it stand for. -/
inductive Escape
  | literal (l : Literal)
  | shorthand (negated : Bool)
  | anchor
  | wordEdge
  deriving DecidableEq, Repr

/-- Some hexadecimal digits that follow the value `acc`. -/
def readNumber? (m : Modes) : Nat → Nat → List Char → Option (Nat × List Char)
  | 0, acc, cs => some (acc, cs)
  | _ + 1, _, [] => none
  | n + 1, acc, c :: cs =>
      (Text.hexDigit? c).bind (fun d => readNumber? m n (acc * 16 + d) (m.skip cs))

/-- A character by its number of `digits` digits. -/
def readNumbered? (m : Modes) (digits : Nat) (cs : List Char) : Option (Escape × List Char) := do
  let (n, rest) ← readNumber? m digits 0 (m.skip cs)
  let c ← Text.character? n
  return (.literal ⟨c, digits = 2⟩, rest)

/-- The control character that a letter stands for. -/
def control? (c : Char) : Option Char :=
  if c = 'a' then some '\x07'
  else if c = 't' then some '\t'
  else if c = 'n' then some '\n'
  else if c = 'v' then some '\x0b'
  else if c = 'f' then some '\x0c'
  else if c = 'r' then some '\r'
  else none

/-- Whether a character stands for itself behind a backslash. -/
def isPunctuation (c : Char) : Bool :=
  c.toNat ≤ 127 && !c.isAlphanum && c ≠ '<' && c ≠ '>'

/-- An escape, from behind its backslash on. -/
def readEscape? (m : Modes) : List Char → Option (Escape × List Char)
  | [] => none
  | c :: cs =>
      if c = 'x' then readNumbered? m 2 cs
      else if c = 'u' then readNumbered? m 4 cs
      else if c = 'U' then readNumbered? m 8 cs
      else if c = 'd' ∨ c = 's' ∨ c = 'w' then some (.shorthand false, cs)
      else if c = 'D' ∨ c = 'S' ∨ c = 'W' then some (.shorthand true, cs)
      else if c = 'A' ∨ c = 'z' then some (.anchor, cs)
      else if c = 'b' ∨ c = 'B' ∨ c = '<' ∨ c = '>' then some (.wordEdge, cs)
      else if isPunctuation c then some (.literal ⟨c, false⟩, cs)
      else (control? c).map (fun d => (.literal ⟨d, false⟩, cs))

end Pattern
end QuoteBridge
