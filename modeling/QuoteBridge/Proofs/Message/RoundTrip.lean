import QuoteBridge.Message
import QuoteBridge.Proofs.Json.RoundTrip

/-!
# Messages read back

What the producer side publishes the consumer side reads as the message that was published,
whatever the field names and values are.

**Results.**
* `Message.ofJson_toJson`: a message is read back from its value.
* `Message.decode_encode`: a message is read back from its octets.
* `Message.encodeInto_round_trip`: what is written behind any octets is read back, and is written
  for no other message.
-/

namespace QuoteBridge
namespace Message

open Json

section Parts

theorem readNatural_naturalValue {bound n : Nat} (hn : n < bound) (hw : n < Number.wordBound) :
    readNatural bound (naturalValue n) = some n := by
  simp only [readNatural, naturalValue, Number.natural?_ofNat hw, Option.filter_some, hn,
    decide_true, if_true]

theorem readEpoch_naturalValue (e : Epoch) : readEpoch (naturalValue e.toNat) = some e := by
  have hlt : e.toNat < UInt32.size := UInt32.toNat_lt_size e
  have hword : e.toNat < Number.wordBound := Nat.lt_trans hlt (by decide)
  rw [readEpoch, readNatural_naturalValue hlt hword, Option.map_some, UInt32.ofNat_toNat]

theorem readId_naturalValue (n : SubscriptionId) : readId (naturalValue n.toNat) = some n := by
  have hlt : n.toNat < UInt64.size := UInt64.toNat_lt_size n
  rw [readId, readNatural_naturalValue hlt hlt, Option.map_some, UInt64.ofNat_toNat]

theorem readItem_name (i : Item) : readItem (.text i.name) = some i := by
  rw [readItem, Item.parse_name]
  rfl

theorem readTexts_map (es : List (String × String)) :
    readTexts (es.map (fun e => (e.1, .text e.2))) = some es := by
  induction es with
  | nil => rfl
  | cons e es ih =>
      rw [List.map_cons, readTexts, ih]
      rfl

/-- Fields are read back: their names stand in order and each stands once. -/
theorem readFields_fieldsValue (fs : Fields) : readFields (fieldsValue fs) = some fs := by
  rw [fieldsValue, readFields, readTexts_map, Option.map_some, SortedMap.ofList_entries]

end Parts

section Whole

/-- A message is read back from its value. -/
theorem ofJson_toJson (m : Message) : ofJson m.toJson = some m := by
  cases m with
  | heartbeat e =>
      simp [toJson, ofJson, ofMembers, single?, tagKey, heartbeatOf, readEpoch_naturalValue]
  | update u =>
      simp [toJson, ofJson, ofMembers, single?, tagKey, updateTag, heartbeatTag, updateOf,
        readItem_name, readFields_fieldsValue, readBool, readId_naturalValue,
        readEpoch_naturalValue]

theorem naturalMembers_texts (es : List (String × String)) :
    NaturalMembers (es.map (fun e => (e.1, .text e.2))) := by
  induction es with
  | nil => exact trivial
  | cons e es ih => exact ⟨trivial, ih⟩

theorem depthMembers_texts (es : List (String × String)) :
    depthMembers (es.map (fun e => (e.1, .text e.2))) = 0 := by
  induction es with
  | nil => rfl
  | cons e es ih => simp [depthMembers, Value.depth, ih]

/-- The numbers of a message are natural numbers of 64 bits. -/
theorem natural_toJson (m : Message) : m.toJson.Natural := by
  have hepoch : ∀ e : Epoch, (naturalValue e.toNat).Natural := fun e =>
    ⟨e.toNat, Nat.lt_trans (UInt32.toNat_lt_size e) (by decide), rfl⟩
  cases m with
  | heartbeat e => exact ⟨trivial, hepoch e, trivial⟩
  | update u =>
      exact ⟨trivial, trivial, naturalMembers_texts _, trivial,
        ⟨_, UInt64.toNat_lt_size u.subscriptionId, rfl⟩, hepoch u.epoch, trivial⟩

/-- A message is an object that holds at most one object more. -/
theorem depth_toJson_le (m : Message) : m.toJson.depth ≤ Reader.maxDepth := by
  cases m with
  | heartbeat e =>
      simp [toJson, Value.depth, depthMembers, naturalValue, Reader.maxDepth]
  | update u =>
      simp [toJson, Value.depth, depthMembers, fieldsValue, depthMembers_texts, naturalValue,
        Reader.maxDepth]

/-- A message is read back from its octets. -/
theorem decode_encode (m : Message) : decode m.encode = some m := by
  rw [decode, encode, text, Value.readBytes_write (natural_toJson m) (depth_toJson_le m),
    Option.bind_some, ofJson_toJson]

/-- Messages with the same octets are the same. -/
theorem eq_of_encode_eq {m m' : Message} (h : m.encode = m'.encode) : m = m' := by
  have hread : some m = some m' := by rw [← decode_encode m, h, decode_encode m']
  exact Option.some.inj hread

/-- Behind any octets a message is written as the same octets; these are read back as the message,
and no other message is written as them. -/
theorem encodeInto_round_trip (m : Message) :
    ∃ e, (∀ buffer, m.encodeInto buffer = buffer ++ e) ∧ decode e = some m ∧
      ∀ m' buffer, m'.encodeInto buffer = buffer ++ e ↔ m' = m := by
  refine ⟨m.encode, fun _ => rfl, decode_encode m, fun m' buffer => ⟨fun h => ?_, ?_⟩⟩
  · exact eq_of_encode_eq ((ByteArray.append_right_inj buffer).mp h)
  · rintro rfl
    rfl

end Whole

end Message
end QuoteBridge
