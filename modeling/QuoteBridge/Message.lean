import QuoteBridge.Json.Reader
import QuoteBridge.Json.Writer
import QuoteBridge.Request
import QuoteBridge.SortedMap

/-!
# Bus messages

The producer side publishes heartbeats and updates as JSON values.

**Writing.**  An object with the members in a fixed order, the tag `type` first; fields in the
order of their names.

**Reading.**  An object holds every member of its kind exactly once, in any order, and any other
members; or an array holds the tag and the members of its kind, in order and nothing else.  Numbers
are natural numbers in plain form.  Of a repeated field name the last value counts.
-/

namespace QuoteBridge

/-- Field values by name. -/
abbrev Fields := SortedMap String String

/-- All current field values of one item. -/
structure Update where
  item : Item
  fields : Fields
  isSnapshot : Bool
  subscriptionId : SubscriptionId
  epoch : Epoch

/-- What the producer side publishes. -/
inductive Message
  | heartbeat (epoch : Epoch)
  | update (u : Update)

namespace Message

open Json

/-- The producer run that a message comes from. -/
def epoch : Message → Epoch
  | .heartbeat e => e
  | .update u => u.epoch

/-- Name of the member that tells the kind. -/
def tagKey : String := "type"

def heartbeatTag : String := "heartbeat"

def updateTag : String := "update"

section Writing

def naturalValue (n : Nat) : Value := .number (.ofNat n)

def fieldsValue (fs : Fields) : Value :=
  .object (fs.entries.map (fun e => (e.1, .text e.2)))

def toJson : Message → Value
  | .heartbeat e =>
      .object [(tagKey, .text heartbeatTag), ("epoch", naturalValue e.toNat)]
  | .update u =>
      .object
        [(tagKey, .text updateTag),
         ("item", .text u.item.name),
         ("fields", fieldsValue u.fields),
         ("is_snapshot", .bool u.isSnapshot),
         ("subscription_id", naturalValue u.subscriptionId.toNat),
         ("epoch", naturalValue u.epoch.toNat)]

def text (m : Message) : String := String.ofList m.toJson.write

/-- The octets of a message. -/
def encode (m : Message) : ByteArray := m.text.toUTF8

/-- Writes a message behind the octets of a buffer. -/
def encodeInto (m : Message) (buffer : ByteArray) : ByteArray := buffer ++ m.encode

end Writing

section Reading

/-- A natural number below a bound. -/
def readNatural (bound : Nat) : Value → Option Nat
  | .number n => n.natural?.filter (· < bound)
  | _ => none

/-- A producer run. -/
def readEpoch (v : Value) : Option Epoch :=
  (readNatural UInt32.size v).map UInt32.ofNat

def readId (v : Value) : Option SubscriptionId :=
  (readNatural UInt64.size v).map UInt64.ofNat

/-- An item by its name. -/
def readItem : Value → Option Item
  | .text s => (Item.parse s).toOption
  | _ => none

/-- A truth value. -/
def readBool : Value → Option Bool
  | .bool b => some b
  | _ => none

/-- Members whose values are texts. -/
def readTexts : List (String × Value) → Option (List (String × String))
  | [] => some []
  | (k, .text s) :: ms => (readTexts ms).map ((k, s) :: ·)
  | _ :: _ => none

/-- Fields by name. -/
def readFields : Value → Option Fields
  | .object ms => (readTexts ms).map SortedMap.ofList
  | _ => none

/-- The value of a member that is there exactly once. -/
def single? (key : String) (members : List (String × Value)) : Option Value :=
  match members.filter (fun m => m.1 = key) with
  | [m] => some m.2
  | _ => none

/-- An update from the values of its members. -/
def updateOf (item fields isSnapshot id epoch : Value) : Option Message := do
  let item ← readItem item
  let fields ← readFields fields
  let isSnapshot ← readBool isSnapshot
  let id ← readId id
  let epoch ← readEpoch epoch
  return .update ⟨item, fields, isSnapshot, id, epoch⟩

/-- A heartbeat from the value of its member. -/
def heartbeatOf (epoch : Value) : Option Message := (readEpoch epoch).map .heartbeat

/-- A message from the members of an object. -/
def ofMembers (members : List (String × Value)) : Option Message :=
  match single? tagKey members with
  | some (.text tag) =>
      if tag = heartbeatTag then (single? "epoch" members).bind heartbeatOf
      else if tag = updateTag then do
        updateOf (← single? "item" members) (← single? "fields" members)
          (← single? "is_snapshot" members) (← single? "subscription_id" members)
          (← single? "epoch" members)
      else none
  | _ => none

/-- A message from the items of an array. -/
def ofItems : List Value → Option Message
  | [.text tag, epoch] => if tag = heartbeatTag then heartbeatOf epoch else none
  | [.text tag, item, fields, isSnapshot, id, epoch] =>
      if tag = updateTag then updateOf item fields isSnapshot id epoch else none
  | _ => none

def ofJson : Value → Option Message
  | .object members => ofMembers members
  | .array items => ofItems items
  | _ => none

/-- Reads octets as a message. -/
def decode (bytes : ByteArray) : Option Message := (Value.readBytes bytes).bind ofJson

end Reading

end Message

end QuoteBridge
