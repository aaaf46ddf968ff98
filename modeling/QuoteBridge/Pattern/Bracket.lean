import QuoteBridge.Pattern.Escape

/-!
# Bracket expressions of a pattern

A bracket expression is a set of characters: single ones, ranges, shorthands, named sets and other
bracket expressions, joined by `&&`, `--` and `~~`.

**Height.**  Only how deep a bracket expression nests is kept of it.  A bracket adds one to its
content, several items in a row add one to the highest of them, and an operator adds one to the
higher side.
-/

namespace QuoteBridge
namespace Pattern

/-- Height of several things in a row. -/
def rowHeight : List Nat → Nat
  | [] => 0
  | [h] => h
  | hs => 1 + hs.foldl max 0

/-- An open bracket: the height of the left side if there was an operator, and the heights of the
items behind it. -/
structure Bracket where
  left? : Option Nat
  items : List Nat
  deriving DecidableEq, Repr

namespace Bracket

/-- Height of the content. -/
def height (b : Bracket) : Nat :=
  match b.left? with
  | none => rowHeight b.items
  | some h => 1 + max h (rowHeight b.items)

def add (h : Nat) (b : Bracket) : Bracket := { b with items := h :: b.items }

/-- Makes everything so far the left side of an operator. -/
def operate (b : Bracket) : Bracket := ⟨some b.height, []⟩

/-- Names of sets of ASCII characters. -/
def names : List String :=
  ["alnum", "alpha", "ascii", "blank", "cntrl", "digit", "graph", "lower", "print", "punct",
    "space", "upper", "word", "xdigit"]

/-- A set by its name, from behind its bracket on: whether it is negated. -/
def readNamed? (cs : List Char) : Option (Bool × List Char) :=
  match cs with
  | ':' :: rest =>
      let negated : Bool := rest.head? = some '^'
      let body := if negated then rest.tail else rest
      match body.dropWhile (· ≠ ':') with
      | ':' :: ']' :: after =>
          if String.ofList (body.takeWhile (· ≠ ':')) ∈ names then some (negated, after) else none
      | _ => none
  | _ => none

/-- Takes the dashes at the start of a bracket as items. -/
def readDashes? (m : Modes) : Nat → Bracket → List Char → Option (Bracket × List Char)
  | 0, _, _ => none
  | fuel + 1, b, cs =>
      match m.skip cs with
      | [] => none
      | '-' :: rest =>
          if m.allowsInSet ⟨'-', false⟩ then readDashes? m fuel (b.add 0) rest else none
      | rest => some (b, rest)

/-- The start of a bracket, from behind the bracket itself on.  A closing bracket is an item if it
comes first. -/
def start? (m : Modes) (cs : List Char) : Option (Bracket × List Char) :=
  let body :=
    match m.skip cs with
    | '^' :: rest => if m.allowsNegation then some rest else none
    | rest => some rest
  match body.bind (fun rest => readDashes? m (rest.length + 1) ⟨none, []⟩ rest) with
  | some (⟨none, []⟩, ']' :: rest) =>
      match m.allowsInSet ⟨']', false⟩, m.skip rest with
      | true, c :: more => some (⟨none, [0]⟩, c :: more)
      | _, _ => none
  | r => r

/-- A character or an escape. -/
def readPoint? (m : Modes) : List Char → Option (Escape × List Char)
  | [] => none
  | '\\' :: cs => readEscape? m cs
  | c :: cs => some (.literal ⟨c, false⟩, cs)

/-- Whether an escape may be an item. -/
def isItem (m : Modes) : Escape → Bool
  | .literal l => m.allowsInSet l
  | .shorthand negated => m.allowsShorthand negated
  | .anchor => false
  | .wordEdge => false

/-- Whether two escapes are the ends of a range. -/
def isRange (m : Modes) : Escape → Escape → Bool
  | .literal a, .literal b => m.allowsInSet a && m.allowsInSet b && a.char ≤ b.char
  | _, _ => false

/-- The rest of a text behind a single item or a range. -/
def afterItem? (m : Modes) (cs : List Char) : Option (List Char) := do
  let (first, rest) ← readPoint? m cs
  match m.skip rest with
  | '-' :: more =>
      if m.peek? more = some ']' ∨ m.peek? more = some '-' then
        if isItem m first then some ('-' :: more) else none
      else
        let (last, after) ← readPoint? m (m.skip more)
        if isRange m first last then some after else none
  | after => if isItem m first then some after else none

/-- The content of an open bracket `b` that stands in the brackets `outer`: the height of the
outermost of them when it closes. -/
def readContent? (m : Modes) : Nat → Bracket → List Bracket → List Char → Option (Nat × List Char)
  | 0, _, _, _ => none
  | fuel + 1, b, outer, cs =>
      match m.skip cs with
      | '[' :: rest =>
          match readNamed? rest with
          | some (negated, after) =>
              if m.allowsNamed negated then readContent? m fuel (b.add 0) outer after else none
          | none =>
              match start? m rest with
              | some (inner, after) => readContent? m fuel inner (b :: outer) after
              | none => none
      | ']' :: rest =>
          match outer with
          | [] => some (b.height + 1, rest)
          | o :: os => readContent? m fuel (o.add (b.height + 1)) os rest
      | '&' :: '&' :: rest => readContent? m fuel b.operate outer rest
      | '-' :: '-' :: rest => readContent? m fuel b.operate outer rest
      | '~' :: '~' :: rest => readContent? m fuel b.operate outer rest
      | item =>
          match afterItem? m item with
          | some after => readContent? m fuel (b.add 0) outer after
          | none => none

/-- A bracket expression, from behind its bracket on: its height. -/
def read? (m : Modes) (cs : List Char) : Option (Nat × List Char) :=
  (start? m cs).bind (fun p => readContent? m (p.2.length + 1) p.1 [] p.2)

end Bracket
end Pattern
end QuoteBridge
