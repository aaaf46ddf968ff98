import QuoteBridge.Text.Shapeless

/-!
# Quoted texts

A quoted text stands between double quotes.  A quote, a backslash, NUL, tab, line feed and
carriage return are written by a backslash and a letter, and a character without a shape of its
own by its number in lowercase hexadecimal digits.
-/

namespace QuoteBridge
namespace Text

/-- The lowercase hexadecimal digits of a number. -/
def hex (n : Nat) : String := String.ofList (Nat.toDigits 16 n)

/-- How a character is written in a quoted text. -/
def quoteChar (c : Char) : String :=
  if c = '\x00' then "\\0"
  else if c = '\t' then "\\t"
  else if c = '\r' then "\\r"
  else if c = '\n' then "\\n"
  else if c = '\\' then "\\\\"
  else if c = '"' then "\\\""
  else if isShapeless c then "\\u\x7b" ++ hex c.toNat ++ "\x7d"
  else c.toString

/-- A text between quotes. -/
def quote (s : String) : String :=
  "\"" ++ String.join (s.toList.map quoteChar) ++ "\""

end Text
end QuoteBridge
