import QuoteBridge.Json.Value
import QuoteBridge.Text.Numeral

/-!
# Writing JSON values

Values are written without spaces.  In texts the quote, the backslash and the control characters
below U+0020 are escaped and all other characters stand for themselves.
-/

namespace QuoteBridge
namespace Json

/-- A lowercase hexadecimal digit. -/
def hexDigit (n : Nat) : Char :=
  if n < 10 then Char.ofNat ('0'.toNat + n) else Char.ofNat ('a'.toNat + (n - 10))

/-- A character as it stands in a text. -/
def escapeChar (c : Char) : List Char :=
  if c = '"' then ['\\', '"']
  else if c = '\\' then ['\\', '\\']
  else if c = '\x08' then ['\\', 'b']
  else if c = '\x0c' then ['\\', 'f']
  else if c = '\n' then ['\\', 'n']
  else if c = '\r' then ['\\', 'r']
  else if c = '\t' then ['\\', 't']
  else if c < ' ' then ['\\', 'u', '0', '0', hexDigit (c.toNat / 16), hexDigit (c.toNat % 16)]
  else [c]

/-- A text between quotes. -/
def writeText (s : String) : List Char :=
  '"' :: (s.toList.flatMap escapeChar ++ ['"'])

/-- Decimal digits. -/
def writeDigits (ds : List Nat) : List Char := ds.map (fun d => Char.ofNat ('0'.toNat + d))

def Number.write (n : Number) : List Char :=
  (if n.minus then ['-'] else []) ++ writeDigits n.whole ++
    (if n.fraction = [] then [] else '.' :: writeDigits n.fraction) ++
    (match n.exponent with
     | none => []
     | some (.ofNat e) => 'e' :: (Numeral.write e).toList
     | some (.negSucc e) => 'e' :: '-' :: (Numeral.write (e + 1)).toList)

mutual

def Value.write : Value → List Char
  | .null => ['n', 'u', 'l', 'l']
  | .bool true => ['t', 'r', 'u', 'e']
  | .bool false => ['f', 'a', 'l', 's', 'e']
  | .number n => n.write
  | .text s => writeText s
  | .array items => '[' :: (writeItems items ++ [']'])
  | .object members => '\x7b' :: (writeMembers members ++ ['\x7d'])

/-- The items of an array. -/
def writeItems : List Value → List Char
  | [] => []
  | [v] => v.write
  | v :: vs => v.write ++ ',' :: writeItems vs

/-- The members of an object. -/
def writeMembers : List (String × Value) → List Char
  | [] => []
  | [(k, v)] => writeText k ++ ':' :: v.write
  | (k, v) :: ms => writeText k ++ ':' :: v.write ++ ',' :: writeMembers ms

end

end Json
end QuoteBridge
