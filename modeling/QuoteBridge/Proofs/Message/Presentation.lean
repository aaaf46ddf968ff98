import QuoteBridge.Proofs.Message.RoundTrip
import QuoteBridge.Proofs.SortedMap.Entries

/-!
# How a message may be presented

What a message is read from may be presented in many ways, and nothing of the presentation shows in
the message.

**Objects.**  Every key of the message's kind stands once, wherever it stands, with a value that
denotes its part; all other members are free, repeated ones included.

**Arrays.**  The values that denote the parts stand in order, the tag first.

**Spelling.**  The value may be spelled in any way: blanks around its parts, escapes in its texts.

**Results.**
* `Message.ofJson_of_presents`: a value that presents a message is read as the message.
* `Message.ofMembers_of_repeats`: an object that repeats a key of its kind is refused.
* `Message.decode_presentations`: the same for any octets that spell such a value.
-/

namespace QuoteBridge
namespace Message

open Json

section Parts

/-- The key of a part of a message, and the values that denote the part. -/
structure Part where
  key : String
  denotes : Value → Prop

/-- Any text that is understood as the item denotes it. -/
def DenotesItem (i : Item) (v : Value) : Prop := ∃ s, v = .text s ∧ Item.parse s = .ok i

/-- Of a repeated field name the last value counts. -/
def DenotesFields (fs : Fields) (v : Value) : Prop :=
  ∃ es : List (String × String), v = .object (es.map (fun e => (e.1, .text e.2))) ∧
    ∀ k, fs.get? k = ((es.filter (fun e => e.1 = k)).getLast?).map (·.2)

/-- The tag of the message's kind. -/
def tag : Message → String
  | .heartbeat _ => heartbeatTag
  | .update _ => updateTag

/-- The parts of a message, in the order in which an array holds them. -/
def parts (m : Message) : List Part :=
  ⟨tagKey, (· = .text m.tag)⟩ ::
    match m with
    | .heartbeat e => [⟨"epoch", (· = naturalValue e.toNat)⟩]
    | .update u =>
        [⟨"item", DenotesItem u.item⟩,
         ⟨"fields", DenotesFields u.fields⟩,
         ⟨"is_snapshot", (· = .bool u.isSnapshot)⟩,
         ⟨"subscription_id", (· = naturalValue u.subscriptionId.toNat)⟩,
         ⟨"epoch", (· = naturalValue u.epoch.toNat)⟩]

def keys (m : Message) : List String := m.parts.map Part.key

/-- How often a key stands in an object. -/
def occurrences (key : String) (members : List (String × Value)) : Nat :=
  (members.map Prod.fst).count key

/-- The value presents the message. -/
inductive Presents (m : Message) : Value → Prop
  | object {members : List (String × Value)}
      (h : ∀ p ∈ m.parts, occurrences p.key members = 1 ∧
        ∀ v, (p.key, v) ∈ members → p.denotes v) : Presents m (.object members)
  | array {items : List Value} (h : List.Forall₂ Part.denotes m.parts items) :
      Presents m (.array items)

/-- The tag is repeated, or it is the one of the message's kind and a key of this kind is
repeated. -/
def Repeats (m : Message) (members : List (String × Value)) : Prop :=
  1 < occurrences tagKey members ∨
    (tagKey, .text m.tag) ∈ members ∧ ∃ key ∈ m.keys, 1 < occurrences key members

end Parts

section Members

variable {key : String} {members : List (String × Value)}

theorem occurrences_eq_length :
    occurrences key members = (members.filter (fun m => m.1 = key)).length := by
  rw [occurrences, List.count, List.countP_map, List.countP_eq_length_filter]
  rfl

theorem exists_mem_of_occurrences (h : 0 < occurrences key members) : ∃ v, (key, v) ∈ members := by
  obtain ⟨⟨k, v⟩, hmem, hk⟩ := List.mem_map.mp (List.count_pos_iff.mp h)
  have hkey : k = key := hk
  exact ⟨v, hkey ▸ hmem⟩

/-- The value of a key that stands once is that of its member. -/
theorem single?_of_mem {v : Value} (h : occurrences key members = 1) (hmem : (key, v) ∈ members) :
    single? key members = some v := by
  rw [occurrences_eq_length] at h
  obtain ⟨m, hm⟩ := List.length_eq_one_iff.mp h
  have hv : (key, v) ∈ members.filter (fun m => m.1 = key) :=
    List.mem_filter.mpr ⟨hmem, decide_eq_true rfl⟩
  rw [hm, List.mem_singleton] at hv
  subst hv
  rw [single?, hm]

theorem single?_of_repeated (h : 1 < occurrences key members) : single? key members = none := by
  rw [occurrences_eq_length] at h
  unfold single?
  split
  · rename_i hm
    rw [hm] at h
    simp at h
  · rfl

end Members

section Reading

variable {m : Message} {v : Value}

theorem readItem_of_denotes {i : Item} (h : DenotesItem i v) : readItem v = some i := by
  obtain ⟨s, rfl, hs⟩ := h
  rw [readItem, hs]
  rfl

theorem readFields_of_denotes {fs : Fields} (h : DenotesFields fs v) : readFields v = some fs := by
  obtain ⟨es, rfl, hes⟩ := h
  have hfs : SortedMap.ofList es = fs :=
    SortedMap.ext_get? (fun k => by rw [SortedMap.get?_ofList, hes])
  rw [readFields, readTexts_map, Option.map_some, hfs]

/-- The parts of an update are read one by one. -/
theorem updateOf_of_denotes {u : Update} {item fields isSnapshot id epoch : Value}
    (hitem : DenotesItem u.item item) (hfields : DenotesFields u.fields fields)
    (hsnapshot : isSnapshot = .bool u.isSnapshot)
    (hid : id = naturalValue u.subscriptionId.toNat)
    (hepoch : epoch = naturalValue u.epoch.toNat) :
    updateOf item fields isSnapshot id epoch = some (.update u) := by
  subst hsnapshot hid hepoch
  simp [updateOf, readItem_of_denotes hitem, readFields_of_denotes hfields, readBool,
    readId_naturalValue, readEpoch_naturalValue]

/-- In an object the order of the members does not matter, nor what else there is. -/
theorem ofMembers_of_denotes {members : List (String × Value)}
    (h : ∀ p ∈ m.parts, ∃ v, single? p.key members = some v ∧ p.denotes v) :
    ofMembers members = some m := by
  cases m with
  | heartbeat e =>
      simp only [parts, List.forall_mem_cons] at h
      obtain ⟨⟨_, htag, rfl⟩, ⟨_, hepoch, rfl⟩, -⟩ := h
      simp [ofMembers, htag, tag, hepoch, heartbeatOf, readEpoch_naturalValue]
  | update u =>
      simp only [parts, List.forall_mem_cons] at h
      obtain ⟨⟨_, htag, rfl⟩, ⟨_, hitem, hitem'⟩, ⟨_, hfields, hfields'⟩,
        ⟨_, hsnapshot, hsnapshot'⟩, ⟨_, hid, hid'⟩, ⟨_, hepoch, hepoch'⟩, -⟩ := h
      have hupdate := updateOf_of_denotes hitem' hfields' hsnapshot' hid' hepoch'
      simp [ofMembers, htag, tag, updateTag, heartbeatTag, hitem, hfields, hsnapshot, hid, hepoch,
        hupdate]

theorem ofItems_of_denotes {items : List Value} (h : List.Forall₂ Part.denotes m.parts items) :
    ofItems items = some m := by
  cases m with
  | heartbeat e =>
      simp only [parts, List.forall₂_cons_left_iff, List.forall₂_nil_left_iff] at h
      obtain ⟨_, _, rfl, ⟨_, _, rfl, rfl, rfl⟩, rfl⟩ := h
      simp [ofItems, tag, heartbeatOf, readEpoch_naturalValue]
  | update u =>
      simp only [parts, List.forall₂_cons_left_iff, List.forall₂_nil_left_iff] at h
      obtain ⟨_, _, rfl, ⟨_, _, hitem, ⟨_, _, hfields, ⟨_, _, hsnapshot, ⟨_, _, hid,
        ⟨_, _, hepoch, rfl, rfl⟩, rfl⟩, rfl⟩, rfl⟩, rfl⟩, rfl⟩ := h
      have hupdate := updateOf_of_denotes hitem hfields hsnapshot hid hepoch
      simp [ofItems, tag, hupdate]

/-- A value that presents a message is read as the message. -/
theorem ofJson_of_presents (h : m.Presents v) : ofJson v = some m := by
  cases h with
  | object h =>
      refine ofMembers_of_denotes (fun p hp => ?_)
      obtain ⟨hone, hdenotes⟩ := h p hp
      have hpos : 0 < occurrences p.key _ := Nat.lt_of_lt_of_eq Nat.one_pos hone.symm
      obtain ⟨v, hmem⟩ := exists_mem_of_occurrences hpos
      exact ⟨v, single?_of_mem hone hmem, hdenotes v hmem⟩
  | array h => exact ofItems_of_denotes h

/-- An object that repeats a key of its kind is refused. -/
theorem ofMembers_of_repeats {members : List (String × Value)} (h : m.Repeats members) :
    ofMembers members = none := by
  by_cases htwice : 1 < occurrences tagKey members
  · rw [ofMembers, single?_of_repeated htwice]
  · obtain h | ⟨htag, key, hmem, hkey⟩ := h
    · exact absurd h htwice
    · have hpos : 0 < occurrences tagKey members :=
        List.count_pos_iff.mpr (List.mem_map_of_mem htag)
      have hsingle := single?_of_mem (by omega) htag
      have hnone := single?_of_repeated hkey
      cases m with
      | heartbeat e =>
          simp only [keys, parts, List.map_cons, List.map_nil, List.mem_cons, List.not_mem_nil,
            or_false] at hmem
          rcases hmem with rfl | rfl
          · exact absurd hkey htwice
          · simp [ofMembers, hsingle, tag, hnone]
      | update u =>
          simp only [keys, parts, List.map_cons, List.map_nil, List.mem_cons, List.not_mem_nil,
            or_false] at hmem
          rcases hmem with rfl | rfl | rfl | rfl | rfl | rfl
          · exact absurd hkey htwice
          all_goals simp [ofMembers, hsingle, tag, updateTag, heartbeatTag, hnone]

end Reading

section Octets

/-- However the value of a message is presented and spelled, its octets are read as the message; and
an object that repeats a key of its kind is refused. -/
theorem decode_presentations (m : Message) (text : String) :
    (∀ v, Element text.toList v → m.Presents v → v.isFinite → v.depth ≤ Reader.maxDepth →
        decode text.toUTF8 = some m) ∧
      ∀ members, Element text.toList (.object members) → m.Repeats members →
        decode text.toUTF8 = none := by
  refine ⟨fun v hspelled hpresents hfinite hdepth => ?_, fun members hspelled hrepeats => ?_⟩
  · rw [decode, hspelled.readBytes, if_pos ⟨hfinite, hdepth⟩, Option.bind_some,
      ofJson_of_presents hpresents]
  · rw [decode, hspelled.readBytes]
    split
    · exact ofMembers_of_repeats hrepeats
    · rfl

/-- The item is spelled with a sign and a zero, a field name is repeated, another key is repeated
with a value of other kinds, and the tag comes last and has an escape in its key. -/
def demoText : String :=
  " \x7b\"x\":[1e-2,\x7b\x7d],\n\"fields\":\x7b\"a\":\"1\",\"a\":\"\\ud83d\\uDE00\"\x7d," ++
    "\"epoch\":3,\"is_snapshot\":true,\"subscription_id\":7,\"x\":null,\"item\":\"item+09\"," ++
    "\"t\\u0079pe\":\"update\"\x7d"

def demoMembers : List (String × Value) :=
  [("x", .array [.number ⟨false, [1], [], some (-2)⟩, .object []]),
   ("fields", .object [("a", .text "1"), ("a", .text "😀")]),
   ("epoch", naturalValue 3),
   ("is_snapshot", .bool true),
   ("subscription_id", naturalValue 7),
   ("x", .null),
   ("item", .text "item+09"),
   (tagKey, .text updateTag)]

def demoMessage : Message :=
  .update ⟨⟨⟨8, by decide⟩⟩, .ofList [("a", "😀")], true, 7, 3⟩

theorem demoNumber_spelled :
    NumberSpelled ['1', 'e', '-', '2'] ⟨false, [1], [], some (-2)⟩ := by
  have hwhole : Whole [1] := .digits (by decide) (by decide)
  have hexponent : Exponent _ (some (-2)) :=
    .digits (Or.inl rfl) (Or.inr (Or.inr rfl)) (by decide : [2] ≠ []) (by decide)
  have h : NumberSpelled _ ⟨false, [1], [], some (-2)⟩ := .mk hwhole .none hexponent
  exact h

theorem demoFace_spelled : TextSpelled
    ['"', '\\', 'u', 'd', '8', '3', 'd', '\\', 'u', 'D', 'E', '0', '0', '"'] "😀" := by
  have hhigh := FourHex.mk (by decide : IsHex 'd' 13) (by decide : IsHex '8' 8)
    (by decide : IsHex '3' 3) (by decide : IsHex 'd' 13)
  have hlow := FourHex.mk (by decide : IsHex 'D' 13) (by decide : IsHex 'E' 14)
    (by decide : IsHex '0' 0) (by decide : IsHex '0' 0)
  have h : TextSpelled _ "😀" := .mk (.cons (.pair (c := '😀') (by decide) hhigh hlow) .nil)
  exact h

theorem demoKey_spelled :
    TextSpelled ['"', 't', '\\', 'u', '0', '0', '7', '9', 'p', 'e', '"'] tagKey := by
  have hy := FourHex.mk (by decide : IsHex '0' 0) (by decide : IsHex '0' 0)
    (by decide : IsHex '7' 7) (by decide : IsHex '9' 9)
  have h : TextSpelled _ tagKey :=
    .mk (.cons (.plain (c := 't') (by decide) (by decide) (by decide))
      (.cons (.unit (c := 'y') hy) (charsSpelled_escapes ['p', 'e'])))
  exact h

theorem demoText_spelled : Element demoText.toList (.object demoMembers) := by
  have hcast : ∀ {cs}, Element cs (.object demoMembers) → cs = demoText.toList →
      Element demoText.toList (.object demoMembers) := fun h hcs => hcs ▸ h
  have hplain : ∀ (k : String) {v : Value}, v.Natural →
      Member (writeText k ++ ':' :: v.write) (k, v) :=
    fun _ _ hv => (Value.spelled_write hv).member (textSpelled_writeText _)
  have hnatural : ∀ k, k < Number.wordBound → (naturalValue k).Natural := fun k hk => ⟨k, hk, rfl⟩
  have hx : Member _ ("x", .array [.number ⟨false, [1], [], some (-2)⟩, .object []]) :=
    (Spelled.array (.more (Spelled.number demoNumber_spelled).element
      (.last (Spelled.emptyObject blank_nil).element))).member (textSpelled_writeText _)
  have hface : Member _ ("a", .text "😀") :=
    (Spelled.text demoFace_spelled).member (textSpelled_writeText _)
  have hfields : Member _ ("fields", .object [("a", .text "1"), ("a", .text "😀")]) :=
    .mk (by decide : Blank ['\n']) (textSpelled_writeText _) blank_nil
      (Spelled.object (.more (hplain "a" (v := .text "1") trivial) (.last hface))).element
  have htag : Member _ (tagKey, .text updateTag) :=
    (Spelled.text (textSpelled_writeText _)).member demoKey_spelled
  have hmembers : Members _ demoMembers :=
    .more hx (.more hfields (.more (hplain _ (hnatural 3 (by decide)))
      (.more (hplain _ (v := .bool true) trivial) (.more (hplain _ (hnatural 7 (by decide)))
        (.more (hplain _ (v := .null) trivial) (.more (hplain _ (v := .text "item+09") trivial)
          (.last htag)))))))
  exact hcast (.mk (by decide : Blank [' ']) (.object hmembers) blank_nil) (by decide +kernel)

theorem demoMessage_presents : demoMessage.Presents (.object demoMembers) := by
  refine .object (fun p hp => ?_)
  simp only [parts, demoMessage, List.mem_cons, List.not_mem_nil, or_false] at hp
  rcases hp with rfl | rfl | rfl | rfl | rfl | rfl
  · exact ⟨by decide, fun v hv => by simpa [demoMembers, tagKey, tag] using hv⟩
  · exact ⟨by decide, fun v hv => ⟨"item+09", by simpa [demoMembers, tagKey] using hv, rfl⟩⟩
  · refine ⟨by decide, fun v hv => ⟨[("a", "1"), ("a", "😀")], ?_, fun k => ?_⟩⟩
    · simpa [demoMembers, tagKey] using hv
    · rw [SortedMap.get?_ofList]
      by_cases hk : "a" = k <;> simp [hk]
  · exact ⟨by decide, fun v hv => by simpa [demoMembers, tagKey] using hv⟩
  · exact ⟨by decide, fun v hv => by simpa [demoMembers, tagKey] using hv⟩
  · exact ⟨by decide, fun v hv => by simpa [demoMembers, tagKey] using hv⟩

/-- A heartbeat that has its run twice. -/
def demoRepeated : List (String × Value) :=
  [("epoch", naturalValue 3), ("epoch", naturalValue 3), (tagKey, .text heartbeatTag)]

/-- The text with all its freedoms is read as the message, and the heartbeat is refused. -/
theorem decode_presentations_demo :
    Element demoText.toList (.object demoMembers) ∧ demoMessage.Presents (.object demoMembers) ∧
      decode demoText.toUTF8 = some demoMessage ∧
      Repeats (.heartbeat 3) demoRepeated ∧
      decode (String.ofList (Value.write (.object demoRepeated))).toUTF8 = none := by
  have hfinite : Value.isFinite (.object demoMembers) = true := by decide +kernel
  have hdepth : Value.depth (.object demoMembers) ≤ Reader.maxDepth := by decide +kernel
  have hrepeats : Repeats (.heartbeat 3) demoRepeated :=
    Or.inr ⟨by simp [demoRepeated, tag], "epoch", by simp [keys, parts], by decide⟩
  have hspelled : Element (String.ofList (Value.write (.object demoRepeated))).toList
      (.object demoRepeated) := by
    have hnatural : Value.Natural (.object demoRepeated) :=
      ⟨⟨3, by decide, rfl⟩, ⟨3, by decide, rfl⟩, trivial, trivial⟩
    rw [String.toList_ofList]
    exact (Value.spelled_write hnatural).element
  exact ⟨demoText_spelled, demoMessage_presents,
    (decode_presentations demoMessage demoText).1 _ demoText_spelled demoMessage_presents hfinite
      hdepth, hrepeats,
    (decode_presentations (.heartbeat 3) _).2 _ hspelled hrepeats⟩

end Octets

end Message
end QuoteBridge
