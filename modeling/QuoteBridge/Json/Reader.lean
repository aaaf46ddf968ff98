import QuoteBridge.Json.Token

/-!
# Reading JSON values

A machine with a stack reads tokens one by one.  The stack holds the arrays and objects that are
still open, the innermost one first.  Nothing but space may follow the value, and arrays and
objects are at most 127 deep.
-/

namespace QuoteBridge
namespace Json

/-- An open array or object.  What it holds so far stands in reverse order. -/
inductive Frame
  | array (items : List Value)
  | object (members : List (String × Value))
  | member (members : List (String × Value)) (key : String)
  deriving Inhabited, Repr

/-- What may come next. -/
inductive Expected
  | value
  | itemOrEnd
  | keyOrEnd
  | key
  | colon
  | separator
  | nothing (result : Value)
  deriving Inhabited, Repr

/-- A value read so far. -/
structure Reader where
  stack : List Frame
  expected : Expected
  deriving Inhabited, Repr

namespace Reader

/-- Arrays and objects are at most this deep, the outermost one included. -/
def maxDepth : Nat := 127

/-- The reader before the first token. -/
def initial : Reader := ⟨[], .value⟩

/-- Puts a finished value into the innermost open array or object. -/
def supply (v : Value) : List Frame → Option Reader
  | [] => some ⟨[], .nothing v⟩
  | .array items :: rest => some ⟨.array (v :: items) :: rest, .separator⟩
  | .member ms k :: rest => some ⟨.object ((k, v) :: ms) :: rest, .separator⟩
  | .object _ :: _ => none

/-- Opens an array or object. -/
def openFrame (f : Frame) (e : Expected) (stack : List Frame) : Option Reader :=
  if stack.length < maxDepth then some ⟨f :: stack, e⟩ else none

/-- Closes the innermost array. -/
def closeArray : List Frame → Option Reader
  | .array items :: rest => supply (.array items.reverse) rest
  | _ => none

/-- Closes the innermost object. -/
def closeObject : List Frame → Option Reader
  | .object ms :: rest => supply (.object ms.reverse) rest
  | _ => none

/-- Starts a value. -/
def beginValue (stack : List Frame) : Token → Option Reader
  | .null => supply .null stack
  | .bool b => supply (.bool b) stack
  | .number n => supply (.number n) stack
  | .text s => supply (.text s) stack
  | .openArray => openFrame (.array []) .itemOrEnd stack
  | .openObject => openFrame (.object []) .keyOrEnd stack
  | _ => none

/-- Reads the key of a member. -/
def beginMember (s : String) : List Frame → Option Reader
  | .object ms :: rest => some ⟨.member ms s :: rest, .colon⟩
  | _ => none

/-- Goes on behind a comma. -/
def afterComma : List Frame → Option Reader
  | .array items :: rest => some ⟨.array items :: rest, .value⟩
  | .object ms :: rest => some ⟨.object ms :: rest, .key⟩
  | _ => none

def step (r : Reader) (t : Token) : Option Reader :=
  match r.expected, t with
  | .value, t => beginValue r.stack t
  | .itemOrEnd, .closeArray => closeArray r.stack
  | .itemOrEnd, t => beginValue r.stack t
  | .keyOrEnd, .closeObject => closeObject r.stack
  | .keyOrEnd, .text s => beginMember s r.stack
  | .key, .text s => beginMember s r.stack
  | .colon, .colon => some ⟨r.stack, .value⟩
  | .separator, .comma => afterComma r.stack
  | .separator, .closeArray => closeArray r.stack
  | .separator, .closeObject => closeObject r.stack
  | _, _ => none

/-- The value, where the tokens may end. -/
def result? (r : Reader) : Option Value :=
  match r.expected with
  | .nothing v => some v
  | _ => none

/-- Reads the tokens that follow. -/
def run : Reader → List Token → Option Value
  | r, [] => r.result?
  | r, t :: ts =>
      match r.step t with
      | none => none
      | some r' => run r' ts

end Reader

def Value.read (text : List Char) : Option Value :=
  (Scan.tokens? .between text).bind (Reader.run .initial)

/-- Reads octets as one value. -/
def Value.readBytes (bytes : ByteArray) : Option Value :=
  (String.fromUTF8? bytes).bind (fun s => Value.read s.toList)

end Json
end QuoteBridge
