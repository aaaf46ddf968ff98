/-!
# Reading octets as text

Octets are read as UTF-8.  `readLossy` accepts every list of octets: each longest start of an
encoded character that cannot be continued becomes one replacement character U+FFFD, and reading
goes on with the octet that did not fit.

**Table.**  The first octet fixes how many octets follow and the range of the second one, so that
no character is written in too many octets, none is a surrogate and none is above U+10FFFF.
-/

namespace QuoteBridge
namespace Utf8

/-- What the octets read so far are. -/
inductive Progress
  /-- Whole characters. -/
  | whole
  /-- `more + 1` octets are missing; the next one lies between `low` and `high`, and `code` holds
  the bits read so far. -/
  | within (more : Nat) (low high : Nat) (code : Nat)
  deriving DecidableEq, Repr

/-- The character that stands for octets that are no character. -/
def replacement : Char := '\uFFFD'

/-- Reads the first octet of a character. -/
def start (b : Nat) : Progress × List Char :=
  if b < 0x80 then (.whole, [Char.ofNat b])
  else if 0xC2 ≤ b ∧ b ≤ 0xDF then (.within 0 0x80 0xBF (b - 0xC0), [])
  else if b = 0xE0 then (.within 1 0xA0 0xBF 0, [])
  else if b = 0xED then (.within 1 0x80 0x9F 0xD, [])
  else if 0xE1 ≤ b ∧ b ≤ 0xEF then (.within 1 0x80 0xBF (b - 0xE0), [])
  else if b = 0xF0 then (.within 2 0x90 0xBF 0, [])
  else if 0xF1 ≤ b ∧ b ≤ 0xF3 then (.within 2 0x80 0xBF (b - 0xF0), [])
  else if b = 0xF4 then (.within 2 0x80 0x8F 4, [])
  else (.whole, [replacement])

/-- Reads one octet. -/
def step : Progress → Nat → Progress × List Char
  | .whole, b => start b
  | .within more low high code, b =>
      if low ≤ b ∧ b ≤ high then
        match more with
        | 0 => (.whole, [Char.ofNat (code * 64 + (b - 0x80))])
        | more + 1 => (.within more 0x80 0xBF (code * 64 + (b - 0x80)), [])
      else ((start b).1, replacement :: (start b).2)

/-- Reads the octets that follow. -/
def readFrom : Progress → List UInt8 → List Char
  | .whole, [] => []
  | .within _ _ _ _, [] => [replacement]
  | p, b :: bs => (step p b.toNat).2 ++ readFrom (step p b.toNat).1 bs

/-- Reads octets as text, with replacement characters where they are no UTF-8. -/
def readLossy (bytes : ByteArray) : String :=
  match String.fromUTF8? bytes with
  | some s => s
  | none => String.ofList (readFrom .whole bytes.toList)

/-- The octets of a text. -/
def write (s : String) : ByteArray := s.toUTF8

end Utf8
end QuoteBridge
