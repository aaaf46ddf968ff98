import QuoteBridge.Text.Blank

/-!
# Modes of a pattern

Flags in a pattern change how the characters that follow are taken.

**Character sets.**  A pattern is matched against a text.  In Unicode mode its characters are all
those of a text, and neither case nor the classes of digits, spaces and word characters are known.
Out of Unicode mode both are known, for ASCII, but nothing may match a part of a character.
-/

namespace QuoteBridge
namespace Pattern

/-- A character of a pattern; `octet` says that it was written as a number of two digits. -/
structure Literal where
  char : Char
  octet : Bool
  deriving DecidableEq, Repr

/-- How the characters of a pattern are taken.  In spaced mode white space stands for nothing, and
what follows a `#` is a note up to the end of the line. -/
structure Modes where
  ignoreCase : Bool
  unicode : Bool
  spaced : Bool
  deriving DecidableEq, Repr

namespace Modes

/-- Modes at the start of a pattern. -/
def initial : Modes := ⟨false, true, false⟩

/-- Whether a character may stand outside a set. -/
def allows (m : Modes) (l : Literal) : Bool :=
  if m.unicode then !m.ignoreCase else !(l.octet && 127 < l.char.toNat)

/-- Whether a character may stand in a set. -/
def allowsInSet (m : Modes) (l : Literal) : Bool :=
  if m.unicode then !m.ignoreCase else l.char.toNat ≤ 127

/-- Whether there may be a set that is given by what it leaves out. -/
def allowsNegation (m : Modes) : Bool := m.unicode

/-- Whether there may be a shorthand for the digits, the spaces or the word characters, or for what
they leave out. -/
def allowsShorthand (m : Modes) (negated : Bool) : Bool := !m.unicode && !negated

/-- Whether there may be a set of ASCII characters given by its name. -/
def allowsNamed (m : Modes) (negated : Bool) : Bool :=
  if m.unicode then !m.ignoreCase else !negated

/-- The letters of the flags. -/
def flags : List Char := ['i', 'm', 's', 'U', 'u', 'R', 'x']

/-- Sets or clears a flag. -/
def withFlag (flag : Char) (on : Bool) (m : Modes) : Modes :=
  if flag = 'i' then { m with ignoreCase := on }
  else if flag = 'u' then { m with unicode := on }
  else if flag = 'x' then { m with spaced := on }
  else m

/-- Flags and what ends them: `seen`, the characters so far, newest first; the modes; the last
character and the text behind it.  Flags behind a dash are cleared. -/
def readFlags? (seen : List Char) (m : Modes) :
    List Char → Option (List Char × Modes × Char × List Char)
  | [] => none
  | c :: cs =>
      if c = ':' ∨ c = ')' then
        if seen.head? = some '-' then none else some (seen, m, c, cs)
      else if c ∈ '-' :: flags ∧ c ∉ seen then
        readFlags? (c :: seen) (m.withFlag c (decide ('-' ∉ seen))) cs
      else none

/-- The rest of a text behind white space and notes. -/
def skipNotes (inNote : Bool) : List Char → List Char
  | [] => []
  | c :: cs =>
      if inNote then skipNotes (c ≠ '\n') cs
      else if Text.isBlank c then skipNotes false cs
      else if c = '#' then skipNotes true cs
      else c :: cs

/-- The rest of a text behind what stands for nothing. -/
def skip (m : Modes) (cs : List Char) : List Char := if m.spaced then skipNotes false cs else cs

/-- The character that counts as the next one when a range is looked for.  The first character of a
note counts too. -/
def peek? (m : Modes) (cs : List Char) : Option Char :=
  if m.spaced then
    match cs.dropWhile Text.isBlank with
    | '#' :: note => (note.dropWhile Text.isBlank).head?
    | rest => rest.head?
  else cs.head?

end Modes
end Pattern
end QuoteBridge
