/-!
# TOML values

Of reals and of dates and times only the kind is kept.
-/

namespace QuoteBridge
namespace Toml

/-- A TOML value. -/
inductive Value
  | string (s : String)
  | integer (n : Int)
  | real
  | bool (b : Bool)
  | moment
  | array (items : List Value)
  | table (entries : List (String × Value))
  deriving Inhabited, Repr

/-- Characters between the words of a line. -/
def isBlank (c : Char) : Bool := c = ' ' || c = '\t'

/-- The rest of a text behind its blanks. -/
def skipBlanks (cs : List Char) : List Char := cs.dropWhile isBlank

/-- Whether a character may stand in a comment or a string on one line. -/
def isPlain (c : Char) : Bool := c = '\t' || (' ' ≤ c && c ≠ '\x7f')

/-- The rest of a text behind one line end. -/
def afterNewline? : List Char → Option (List Char)
  | '\n' :: cs => some cs
  | '\r' :: '\n' :: cs => some cs
  | _ => none

/-- The rest of a text behind a comment, if one stands here. -/
def skipComment : List Char → List Char
  | '#' :: cs => cs.dropWhile isPlain
  | cs => cs

/-- The rest of a text behind blanks, a comment and the line end or the end of the text. -/
def endLine? (cs : List Char) : Option (List Char) :=
  match skipComment (skipBlanks cs) with
  | [] => some []
  | rest => afterNewline? rest

end Toml
end QuoteBridge
