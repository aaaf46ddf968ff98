import QuoteBridge.Toml.Scalar
import QuoteBridge.Toml.Table
import QuoteBridge.Toml.Text

/-!
# Reading TOML

A document is a list of lines: blank ones, comments, headers, and keys with their values.  Values
stand in values, and keys have parts, up to a fixed number.

**Fuel.**  Values inside values use up fuel; each of them has at least one character, so the length
of the text is enough.
-/

namespace QuoteBridge
namespace Toml

/-- The rest of a text behind blanks, comments and line ends. -/
def skipLines : Nat → List Char → List Char
  | 0, cs => cs
  | fuel + 1, cs =>
      let rest := skipComment (skipBlanks cs)
      match afterNewline? rest with
      | some more => skipLines fuel more
      | none => rest

/-- The rest of a text behind all blanks, comments and line ends. -/
def skipSpace (cs : List Char) : List Char := skipLines (cs.length + 1) cs

mutual

/-- A value, in which arrays and tables on one line may stand at most `room` deep. -/
def readValue? : Nat → Nat → List Char → Option (Value × List Char)
  | 0, _, _ => none
  | fuel + 1, room, cs =>
      match cs, room with
      | '[' :: _, 0 => none
      | '[' :: rest, room + 1 =>
          (readItems? fuel room (skipSpace rest)).map (fun p => (.array p.1, p.2))
      | '\x7b' :: _, 0 => none
      | '\x7b' :: rest, room + 1 =>
          match skipBlanks rest with
          | '\x7d' :: more => some (.table [], more)
          | body =>
              (readPairs? fuel room .fresh body).map (fun p => (Table.tableValue p.1, p.2))
      | '"' :: _, _ => (readString? cs).map (fun p => (.string p.1, p.2))
      | '\'' :: _, _ => (readString? cs).map (fun p => (.string p.1, p.2))
      | _, _ => readScalar? cs

/-- The items of an array and its end. -/
def readItems? : Nat → Nat → List Char → Option (List Value × List Char)
  | 0, _, _ => none
  | fuel + 1, room, cs =>
      match cs with
      | ']' :: rest => some ([], rest)
      | _ =>
          match readValue? fuel room cs with
          | none => none
          | some (v, rest) =>
              match skipSpace rest with
              | ',' :: more =>
                  (readItems? fuel room (skipSpace more)).map (fun p => (v :: p.1, p.2))
              | ']' :: more => some ([v], more)
              | _ => none

/-- The keys and values of a table on one line, and its end. -/
def readPairs? : Nat → Nat → Table → List Char → Option (Table × List Char)
  | 0, _, _, _ => none
  | fuel + 1, room, t, cs =>
      match readKey? cs with
      | some (key, '=' :: rest) =>
          match readValue? fuel room (skipBlanks rest) with
          | none => none
          | some (v, after) =>
              match (Draft.unsnoc key).bind (fun p => t.insert p.1 p.2 v) with
              | none => none
              | some t' =>
                  match skipBlanks after with
                  | ',' :: more => readPairs? fuel room t' more
                  | '\x7d' :: more => some (t', more)
                  | _ => none
      | _ => none

end

/-- How deep arrays and tables on one line may stand in each other. -/
def maxDepth : Nat := 79

/-- Adds the key and value of a line. -/
def readPair? (cs : List Char) (d : Draft) : Option (Draft × List Char) :=
  match readKey? cs with
  | some (key, '=' :: rest) =>
      match readValue? (2 * rest.length + 2) maxDepth (skipBlanks rest) with
      | none => none
      | some (v, after) =>
          match d.insert key v, endLine? after with
          | some d', some more => some (d', more)
          | _, _ => none
  | _ => none

/-- Begins the table of a header. -/
def readHeader? (cs : List Char) (d : Draft) : Option (Draft × List Char) :=
  match cs with
  | '[' :: rest =>
      match readKey? rest with
      | some (path, ']' :: ']' :: after) =>
          match d.beginArrayTable path, endLine? after with
          | some d', some more => some (d', more)
          | _, _ => none
      | _ => none
  | _ =>
      match readKey? cs with
      | some (path, ']' :: after) =>
          match d.beginTable path, endLine? after with
          | some d', some more => some (d', more)
          | _, _ => none
      | _ => none

/-- Reads at most `fuel` lines. -/
def readLines? : Nat → List Char → Draft → Option Draft
  | 0, _, _ => none
  | fuel + 1, cs, d =>
      match skipBlanks cs with
      | [] => some d
      | '[' :: rest =>
          match readHeader? rest d with
          | none => none
          | some (d', more) => readLines? fuel more d'
      | line =>
          match endLine? line with
          | some more => readLines? fuel more d
          | none =>
              match readPair? line d with
              | none => none
              | some (d', more) => readLines? fuel more d'

/-- The text without a byte order mark at its start. -/
def dropMark : List Char → List Char
  | '\uFEFF' :: cs => cs
  | cs => cs

/-- Reads a document as a table. -/
def read? (text : String) : Option Value :=
  let cs := dropMark text.toList
  ((readLines? (cs.length + 1) cs .initial).bind Draft.finish).map Table.tableValue

end Toml
end QuoteBridge
