import Mathlib.Data.List.Forall2
import QuoteBridge.Proofs.Message.RoundTrip
import QuoteBridge.Proofs.Request.Grammar

/-!
# How a message may name its item

An item has many names, and a message is read the same whichever of them it gives.

**Names.**  Two texts that are understood as the same item are interchangeable; a text that is no
name is so with itself only.

**Place.**  An object names the item under its key, an array in its second place.  A text in any
other place is no name and stays as it is.

**Results.**
* `Item.respells_iff`: what the names of an item are.
* `Message.single?_respells`: the member of a key is the same, or names the same item.
* `Message.ofJson_respells`: values that differ in such names are read as the same message.
* `Message.decode_respells`: so are their octets, however the values are spelled.
-/

namespace QuoteBridge

/-- The texts are the same, or names of the same item. -/
def Item.Respells (name name' : String) : Prop :=
  name = name' ∨ ∃ i, parse name = .ok i ∧ parse name' = .ok i

/-- Names of the same item differ in the zeros and the sign in front of its number. -/
theorem Item.respells_iff {name name' : String} :
    Item.Respells name name' ↔ name = name' ∨ ∃ (i : Item) (cs cs' : List Char),
      (name.toList = stem.toList ++ cs ∧ Numeral.Spells cs i.id) ∧
        name'.toList = stem.toList ++ cs' ∧ Numeral.Spells cs' i.id := by
  simp only [Respells, parse_eq_ok_iff, exists_and_left, exists_and_right]

namespace Message

open Json

section Values

/-- The members are the same, or each names the same item. -/
inductive RespellsMember : String × Value → String × Value → Prop
  | same (m : String × Value) : RespellsMember m m
  | item {name name' : String} (h : Item.Respells name name') :
      RespellsMember ("item", .text name) ("item", .text name')

/-- The values differ in how they name the item of an update, at most. -/
inductive RespellsValue : Value → Value → Prop
  | same (v : Value) : RespellsValue v v
  | object {members members' : List (String × Value)}
      (h : List.Forall₂ RespellsMember members members') :
      RespellsValue (.object members) (.object members')
  | array (tag : Value) {name name' : String} (rest : List Value) (h : Item.Respells name name') :
      RespellsValue (.array (tag :: .text name :: rest)) (.array (tag :: .text name' :: rest))

variable {members members' : List (String × Value)} {m m' : String × Value} {v v' : Value}

theorem readItem_respells {name name' : String} (h : Item.Respells name name') :
    readItem (.text name) = readItem (.text name') := by
  obtain rfl | ⟨i, hi, hi'⟩ := h
  · rfl
  · rw [readItem, readItem, hi, hi']

theorem RespellsMember.key (h : RespellsMember m m') : m.1 = m'.1 := by
  cases h <;> rfl

/-- Under other keys than the item's the values are the same. -/
theorem RespellsMember.value (h : RespellsMember m m') (hk : m.1 ≠ "item") : m.2 = m'.2 := by
  cases h with
  | same => rfl
  | item h => exact absurd rfl hk

theorem RespellsMember.readItem (h : RespellsMember m m') :
    Message.readItem m.2 = Message.readItem m'.2 := by
  cases h with
  | same => rfl
  | item h => exact readItem_respells h

/-- The member of a key is there in both objects or in none. -/
theorem single?_respells (h : List.Forall₂ RespellsMember members members') (key : String) :
    Option.Rel (fun v v' => RespellsMember (key, v) (key, v'))
      (single? key members) (single? key members') := by
  have hfilter : List.Forall₂ RespellsMember (members.filter (fun m => m.1 = key))
      (members'.filter (fun m => m.1 = key)) :=
    List.rel_filter (fun m m' hm => by simp [hm.key]) h
  have hkey : ∀ m ∈ members.filter (fun m => m.1 = key), m.1 = key := by simp
  unfold single?
  generalize members.filter (fun m => m.1 = key) = ms at hfilter hkey
  generalize members'.filter (fun m => m.1 = key) = ms' at hfilter
  match hfilter with
  | .nil => exact .none
  | .cons (a := m) (b := m') hm .nil =>
      have hm₁ : m.1 = key := hkey m List.mem_cons_self
      refine .some ?_
      rw [← hm₁]
      nth_rewrite 2 [hm.key]
      exact hm
  | .cons _ (.cons _ _) => exact .none

theorem single?_eq_of_ne (h : List.Forall₂ RespellsMember members members') {key : String}
    (hk : key ≠ "item") : single? key members = single? key members' := by
  have hrel := single?_respells h key
  generalize single? key members = o at hrel
  generalize single? key members' = o' at hrel
  cases hrel with
  | none => rfl
  | some hv => exact congrArg some (hv.value hk)

theorem updateOf_respells {item item' : Value} (h : readItem item = readItem item')
    (fields isSnapshot id epoch : Value) :
    updateOf item fields isSnapshot id epoch = updateOf item' fields isSnapshot id epoch := by
  simp only [updateOf, h]

theorem ofMembers_respells (h : List.Forall₂ RespellsMember members members') :
    ofMembers members = ofMembers members' := by
  have hitem := single?_respells h "item"
  simp only [ofMembers, single?_eq_of_ne h (by decide : tagKey ≠ "item"),
    single?_eq_of_ne h (by decide : "epoch" ≠ "item"),
    single?_eq_of_ne h (by decide : "fields" ≠ "item"),
    single?_eq_of_ne h (by decide : "is_snapshot" ≠ "item"),
    single?_eq_of_ne h (by decide : "subscription_id" ≠ "item")]
  generalize single? "item" members = o at hitem
  generalize single? "item" members' = o' at hitem
  cases hitem with
  | none => rfl
  | some hv => simp only [Option.bind_eq_bind, Option.bind_some, updateOf_respells hv.readItem]

theorem ofItems_respells {name name' : String} (h : Item.Respells name name') (tag : Value)
    (rest : List Value) :
    ofItems (tag :: .text name :: rest) = ofItems (tag :: .text name' :: rest) := by
  match tag, rest with
  | .text tag, [fields, isSnapshot, id, epoch] =>
      have hupdate := updateOf_respells (readItem_respells h) fields isSnapshot id epoch
      simp only [ofItems, hupdate]
  | .text _, [] => rfl
  | .text _, [_] | .text _, [_, _] | .text _, [_, _, _] | .text _, _ :: _ :: _ :: _ :: _ :: _ => rfl
  | .null, _ | .bool _, _ | .number _, _ | .array _, _ | .object _, _ => rfl

/-- Values that differ in how they name the item are read as the same message. -/
theorem ofJson_respells (h : RespellsValue v v') : ofJson v = ofJson v' := by
  cases h with
  | same => rfl
  | object h => exact ofMembers_respells h
  | array tag rest h => exact ofItems_respells h tag rest

end Values

section Octets

/-- The octets are the same, or spell values that differ in how they name the item at most. -/
inductive RespellsPayload : Payload → Payload → Prop
  | same (p : Payload) : RespellsPayload p p
  | spelled {text text' : String} {v v' : Value} (h : Element text.toList v)
      (h' : Element text'.toList v') (hv : RespellsValue v v') :
      RespellsPayload text.toUTF8 text'.toUTF8

/-- Names have no depth and no numbers. -/
theorem depth_isFinite_respells {v v' : Value} (h : RespellsValue v v') :
    v.depth = v'.depth ∧ v.isFinite = v'.isFinite := by
  cases h with
  | same => exact ⟨rfl, rfl⟩
  | array tag rest h => exact ⟨rfl, rfl⟩
  | @object members members' h =>
      have hmembers : depthMembers members = depthMembers members' ∧
          finiteMembers members = finiteMembers members' := by
        induction h with
        | nil => exact ⟨rfl, rfl⟩
        | cons hm _ ih =>
            cases hm with
            | same m => exact ⟨by simp [depthMembers, ih.1], by simp [finiteMembers, ih.2]⟩
            | item h =>
                exact ⟨by simp [depthMembers, Value.depth, ih.1],
                  by simp [finiteMembers, Value.isFinite, ih.2]⟩
      exact ⟨by simp [Value.depth, hmembers.1], by simp [Value.isFinite, hmembers.2]⟩

/-- Octets that differ in how they name the item are read as the same message. -/
theorem decode_respells {p p' : Payload} (h : RespellsPayload p p') : decode p = decode p' := by
  cases h with
  | same => rfl
  | spelled h h' hv =>
      obtain ⟨hdepth, hfinite⟩ := depth_isFinite_respells hv
      rw [decode, decode, h.readBytes, h'.readBytes, hdepth, hfinite]
      split
      · exact ofJson_respells hv
      · rfl

/-- An update as it is written, but with a given name for its item. -/
def updateNaming (name : String) (u : Update) : Value :=
  .object
    [(tagKey, .text updateTag),
     ("item", .text name),
     ("fields", fieldsValue u.fields),
     ("is_snapshot", .bool u.isSnapshot),
     ("subscription_id", naturalValue u.subscriptionId.toNat),
     ("epoch", naturalValue u.epoch.toNat)]

theorem natural_updateNaming (name : String) (u : Update) : (updateNaming name u).Natural :=
  natural_toJson (.update u)

/-- An update may be written with any name of its item. -/
theorem respells_updateNaming {name name' : String} (h : Item.Respells name name') (u : Update) :
    RespellsPayload (String.ofList (updateNaming name u).write).toUTF8
      (String.ofList (updateNaming name' u).write).toUTF8 := by
  have hspelled : ∀ name, Element (String.ofList (updateNaming name u).write).toList
      (updateNaming name u) := by
    intro name
    rw [String.toList_ofList]
    exact (Value.spelled_write (natural_updateNaming name u)).element
  have hsame : ∀ ms : List (String × Value), List.Forall₂ RespellsMember ms ms :=
    fun ms => List.forall₂_same.mpr (fun m _ => .same m)
  exact .spelled (hspelled name) (hspelled name')
    (.object (.cons (.same _) (.cons (.item h) (hsame _))))

end Octets

end Message
end QuoteBridge
