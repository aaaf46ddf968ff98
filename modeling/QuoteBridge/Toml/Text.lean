import QuoteBridge.Text.Digit
import QuoteBridge.Toml.Value

/-!
# TOML strings and keys

A string stands between double quotes, with escapes, or between single quotes, without.  Between
three quotes it may go over several lines: a line end right behind the opening quotes is left out,
a line end is always a line feed, and up to two quotes may stand before the closing ones.

**Results of readers.**  A reader takes the text behind what was read and gives a value and the
text behind it, or nothing if the text does not fit.
-/

namespace QuoteBridge
namespace Toml

section Escapes

/-- Value of some hexadecimal digits that follow the value `acc`. -/
def hexValue? (acc : Nat) : List Char → Option Nat
  | [] => some acc
  | c :: cs =>
      match Text.hexDigit? c with
      | none => none
      | some d => hexValue? (acc * 16 + d) cs

/-- The character with a hexadecimal number. -/
def hexChar? (digits : List Char) : Option Char :=
  (hexValue? 0 digits).bind Text.character?

/-- The character of a one-letter escape. -/
def escaped? (c : Char) : Option Char :=
  if c = 'b' then some '\x08'
  else if c = 't' then some '\t'
  else if c = 'n' then some '\n'
  else if c = 'f' then some '\x0c'
  else if c = 'r' then some '\r'
  else if c = '"' then some '"'
  else if c = '\\' then some '\\'
  else none

/-- Puts a character before what was read. -/
def prepend (c : Char) (r : Option (List Char × List Char)) : Option (List Char × List Char) :=
  r.map (fun p => (c :: p.1, p.2))

/-- Puts a character, if there is one, before what was read. -/
def prepend? (c : Option Char) (r : Option (List Char × List Char)) :
    Option (List Char × List Char) :=
  c.bind (fun c => prepend c r)

end Escapes

section Strings

/-- A string on one line with escapes. -/
def readBasic : List Char → Option (List Char × List Char)
  | [] => none
  | '"' :: cs => some ([], cs)
  | '\\' :: 'u' :: a :: b :: c :: d :: cs => prepend? (hexChar? [a, b, c, d]) (readBasic cs)
  | '\\' :: 'U' :: a :: b :: c :: d :: e :: f :: g :: h :: cs =>
      prepend? (hexChar? [a, b, c, d, e, f, g, h]) (readBasic cs)
  | '\\' :: c :: cs => prepend? (escaped? c) (readBasic cs)
  | c :: cs => if isPlain c && c ≠ '\\' then prepend c (readBasic cs) else none

/-- A string on one line without escapes. -/
def readLiteral : List Char → Option (List Char × List Char)
  | [] => none
  | '\'' :: cs => some ([], cs)
  | c :: cs => if isPlain c then prepend c (readLiteral cs) else none

/-- Whether only blanks stand before the next line end. -/
def isLineDone (cs : List Char) : Bool := (afterNewline? (skipBlanks cs)).isSome

/-- A string over several lines with escapes.  While `joining` is set blanks and line ends are left
out. -/
def readBasicLines (joining : Bool) : List Char → Option (List Char × List Char)
  | [] => none
  | '"' :: '"' :: '"' :: '"' :: '"' :: cs => some (['"', '"'], cs)
  | '"' :: '"' :: '"' :: '"' :: cs => some (['"'], cs)
  | '"' :: '"' :: '"' :: cs => some ([], cs)
  | '\r' :: '\n' :: cs =>
      if joining then readBasicLines true cs else prepend '\n' (readBasicLines false cs)
  | '\n' :: cs =>
      if joining then readBasicLines true cs else prepend '\n' (readBasicLines false cs)
  | '\\' :: 'u' :: a :: b :: c :: d :: cs =>
      prepend? (hexChar? [a, b, c, d]) (readBasicLines false cs)
  | '\\' :: 'U' :: a :: b :: c :: d :: e :: f :: g :: h :: cs =>
      prepend? (hexChar? [a, b, c, d, e, f, g, h]) (readBasicLines false cs)
  | '\\' :: c :: cs =>
      if isLineDone (c :: cs) then readBasicLines true (c :: cs)
      else prepend? (escaped? c) (readBasicLines false cs)
  | c :: cs =>
      if joining && isBlank c then readBasicLines true cs
      else if isPlain c && c ≠ '\\' then prepend c (readBasicLines false cs)
      else none

/-- A string over several lines without escapes. -/
def readLiteralLines : List Char → Option (List Char × List Char)
  | [] => none
  | '\'' :: '\'' :: '\'' :: '\'' :: '\'' :: cs => some (['\'', '\''], cs)
  | '\'' :: '\'' :: '\'' :: '\'' :: cs => some (['\''], cs)
  | '\'' :: '\'' :: '\'' :: cs => some ([], cs)
  | '\r' :: '\n' :: cs => prepend '\n' (readLiteralLines cs)
  | '\n' :: cs => prepend '\n' (readLiteralLines cs)
  | c :: cs => if isPlain c then prepend c (readLiteralLines cs) else none

/-- Leaves out a line end right behind the opening quotes. -/
def dropFirstNewline (cs : List Char) : List Char := (afterNewline? cs).getD cs

/-- What was read as a text. -/
def asString (r : Option (List Char × List Char)) : Option (String × List Char) :=
  r.map (fun p => (String.ofList p.1, p.2))

/-- A string of any kind, from its opening quotes on. -/
def readString? : List Char → Option (String × List Char)
  | '"' :: '"' :: '"' :: cs => asString (readBasicLines false (dropFirstNewline cs))
  | '\'' :: '\'' :: '\'' :: cs => asString (readLiteralLines (dropFirstNewline cs))
  | '"' :: cs => asString (readBasic cs)
  | '\'' :: cs => asString (readLiteral cs)
  | _ => none

end Strings

section Keys

/-- Whether a character may stand in a key without quotes. -/
def isBare (c : Char) : Bool := c.isAlphanum || c = '_' || c = '-'

def readKeyPart? : List Char → Option (String × List Char)
  | '"' :: cs => asString (readBasic cs)
  | '\'' :: cs => asString (readLiteral cs)
  | cs =>
      match cs.takeWhile isBare with
      | [] => none
      | name => some (String.ofList name, cs.dropWhile isBare)

/-- A key of at most `fuel` parts, and the text behind the blanks after it. -/
def readKeyParts? : Nat → List Char → Option (List String × List Char)
  | 0, _ => none
  | fuel + 1, cs =>
      match readKeyPart? (skipBlanks cs) with
      | none => none
      | some (name, rest) =>
          match skipBlanks rest with
          | '.' :: more => (readKeyParts? fuel more).map (fun p => (name :: p.1, p.2))
          | after => some ([name], after)

def maxKeyParts : Nat := 79

/-- A key of one or more parts. -/
def readKey? (cs : List Char) : Option (List String × List Char) := readKeyParts? maxKeyParts cs

end Keys

end Toml
end QuoteBridge
