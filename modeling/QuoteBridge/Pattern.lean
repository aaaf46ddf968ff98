import QuoteBridge.Pattern.Bracket
import QuoteBridge.Text.Alphanumeric

/-!
# Patterns

A pattern describes texts: characters, bracket expressions, groups, repetitions and alternatives.
Nothing is matched here; a pattern is only checked.

**Rules.**
* A repetition follows something that can be repeated.  Counts in braces are refused.
* A group may have a name of its own, or flags; flags hold to the end of the group.
* A pattern is at most `maxHeight` high.
* A word edge in Unicode mode is refused after everything else was found to be in order.
-/

namespace QuoteBridge

/-- Why a pattern is refused. -/
inductive PatternFault
  | malformed
  | wordEdge
  deriving DecidableEq, Repr

def PatternFault.message : PatternFault → String
  | .malformed => "error building NFA"
  | .wordEdge =>
      "unsupported regex feature for DFAs: cannot build DFAs for regexes with Unicode word " ++
        "boundaries; switch to ASCII word boundaries, or heuristically enable Unicode word " ++
        "boundaries or use a different regex engine"

namespace Pattern

/-- One thing in a row: how high it is, and whether it can be repeated. -/
structure Part where
  height : Nat
  repeatable : Bool
  deriving DecidableEq, Repr

/-- What was read of a group: the heights of the alternatives that are finished, and the parts of
the present one, newest first. -/
structure Branches where
  finished : List Nat
  parts : List Part
  deriving DecidableEq, Repr

namespace Branches

/-- Nothing yet. -/
def empty : Branches := ⟨[], []⟩

/-- Height of the present alternative. -/
def lastHeight (b : Branches) : Nat := rowHeight (b.parts.map (·.height))

/-- Height of all alternatives. -/
def height (b : Branches) : Nat :=
  match b.finished with
  | [] => b.lastHeight
  | hs => 1 + hs.foldl max b.lastHeight

def add (p : Part) (b : Branches) : Branches := { b with parts := p :: b.parts }

/-- Begins another alternative. -/
def branch (b : Branches) : Branches := ⟨b.lastHeight :: b.finished, []⟩

/-- Repeats the last part. -/
def repeat? (b : Branches) : Option Branches :=
  match b.parts with
  | [] => none
  | p :: ps => if p.repeatable then some { b with parts := ⟨p.height + 1, true⟩ :: ps } else none

end Branches

/-- A pattern read so far: the modes, the innermost open group, the groups around it with the modes
outside of them, the names of groups, and whether there was a word edge in Unicode mode. -/
structure Reading where
  modes : Modes
  inner : Branches
  outer : List (Modes × Branches)
  names : List (List Char)
  wordEdge : Bool
  deriving DecidableEq, Repr

namespace Reading

/-- Nothing read yet. -/
def initial : Reading := ⟨.initial, .empty, [], [], false⟩

/-- Adds something that can be repeated. -/
def add (height : Nat) (r : Reading) : Reading := { r with inner := r.inner.add ⟨height, true⟩ }

def openGroup (modes : Modes) (r : Reading) : Reading :=
  { r with modes := modes, inner := .empty, outer := (r.modes, r.inner) :: r.outer }

/-- Closes the innermost group. -/
def closeGroup? (r : Reading) : Option Reading :=
  match r.outer with
  | [] => none
  | (modes, around) :: outer =>
      some
        { r with
          modes := modes
          inner := around.add ⟨r.inner.height + 1, true⟩
          outer := outer }

/-- Whether a text may be the name of a group. -/
def isName (name : List Char) : Bool :=
  match name with
  | [] => false
  | c :: cs =>
      (c = '_' || Text.isLetter c) &&
        cs.all (fun d => d = '_' || d = '.' || d = '[' || d = ']' || Text.isAlphanumeric d)

/-- Opens a group with a name, from behind the bracket before the name on. -/
def openNamed? (cs : List Char) (r : Reading) : Option (Reading × List Char) :=
  let name := cs.takeWhile (· ≠ '>')
  match cs.dropWhile (· ≠ '>') with
  | [] => none
  | _ :: rest =>
      if isName name ∧ name ∉ r.names then
        some ({ r with names := name :: r.names }.openGroup r.modes, rest)
      else none

/-- Opens a group, from behind its parenthesis on, or takes flags that hold from here. -/
def openAny? (cs : List Char) (r : Reading) : Option (Reading × List Char) :=
  match r.modes.skip cs with
  | '?' :: 'P' :: '<' :: rest => r.openNamed? rest
  | '?' :: '<' :: rest => r.openNamed? rest
  | '?' :: rest =>
      match Modes.readFlags? [] r.modes rest with
      | none => none
      | some (_, modes, ':', more) => some (r.openGroup modes, more)
      | some ([], _, _, _) => none
      | some (_, modes, _, more) =>
          some ({ r with modes := modes, inner := r.inner.add ⟨0, false⟩ }, more)
  | rest => some (r.openGroup r.modes, rest)

/-- Adds what an escape stands for. -/
def addEscape? (r : Reading) : Escape → Option Reading
  | .literal l => if r.modes.allows l then some (r.add 0) else none
  | .shorthand negated => if r.modes.allowsShorthand negated then some (r.add 0) else none
  | .anchor => some (r.add 0)
  | .wordEdge => some { r.add 0 with wordEdge := r.wordEdge || r.modes.unicode }

/-- The rest of a text behind the sign of a repetition that takes as little as it can. -/
def skipLazy : List Char → List Char
  | '?' :: cs => cs
  | cs => cs

/-- Reads what begins with a character; `cs` is the text behind it. -/
def step? (r : Reading) (c : Char) (cs : List Char) : Option (Reading × List Char) :=
  if c = '(' then r.openAny? cs
  else if c = ')' then r.closeGroup?.map (·, cs)
  else if c = '|' then some ({ r with inner := r.inner.branch }, cs)
  else if c = '[' then (Bracket.read? r.modes cs).map (fun p => (r.add p.1, p.2))
  else if c = '?' ∨ c = '*' ∨ c = '+' then
    r.inner.repeat?.map (fun b => ({ r with inner := b }, skipLazy cs))
  else if c = '\x7b' then none
  else if c = '\\' then
    (readEscape? r.modes cs).bind (fun p => (r.addEscape? p.1).map (·, p.2))
  else if c = '.' then if r.modes.unicode then some (r.add 0, cs) else none
  else if c = '^' ∨ c = '$' then some (r.add 0, cs)
  else if r.modes.allows ⟨c, false⟩ then some (r.add 0, cs)
  else none

/-- Reads at most `fuel` things. -/
def run? : Nat → Reading → List Char → Option Reading
  | 0, _, _ => none
  | fuel + 1, r, cs =>
      match r.modes.skip cs with
      | [] => some r
      | c :: rest =>
          match r.step? c rest with
          | some (r', more) => run? fuel r' more
          | none => none

end Reading

/-- Most things that may stand in each other. -/
def maxHeight : Nat := 250

def check (cs : List Char) : Except PatternFault Unit :=
  match Reading.initial.run? (cs.length + 1) cs with
  | none => .error .malformed
  | some r =>
      if r.outer ≠ [] ∨ maxHeight < r.inner.height then .error .malformed
      else if r.wordEdge then .error .wordEdge
      else .ok ()

end Pattern
end QuoteBridge
