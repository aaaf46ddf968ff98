import QuoteBridge.Generator
import QuoteBridge.Proofs.Text.Numeral

/-!
# Requests read back

What one side writes as a control request the other side reads as that request.  The item of a
request holds no separator, and a number is read back as long as it stays below the bound.

**Results.**
* `Text.cutAt?_eq_some_iff`: where a text is cut.
* `Item.parse_name`: an item is read back from its name.
* `Request.parse_text`: a request is read back from its text.
* `Generator.readRequest_text`: the generator reads the octets of a request as that request.
-/

namespace QuoteBridge

namespace Text

/-- A text is cut at the first separator. -/
theorem cutAt?_eq_some_iff {sep : Char} {cs before behind : List Char} :
    cutAt? sep cs = some (before, behind) ↔ cs = before ++ sep :: behind ∧ sep ∉ before := by
  induction cs generalizing before with
  | nil => simp [cutAt?]
  | cons c cs ih =>
      rw [cutAt?]
      by_cases hc : c = sep
      · rw [if_pos hc]
        cases before with
        | nil => simp [hc]
        | cons b before =>
            constructor
            · intro h
              cases h
            · rintro ⟨h, hsep⟩
              rw [List.cons_append, List.cons.injEq] at h
              exact absurd (hc.symm.trans h.1 ▸ List.mem_cons_self) hsep
      · rw [if_neg hc]
        cases before with
        | nil => simp [hc]
        | cons b before =>
            rw [Option.map_eq_some_iff]
            constructor
            · rintro ⟨⟨cut, rest⟩, hcut, h⟩
              cases h
              obtain ⟨rfl, hsep⟩ := ih.mp hcut
              exact ⟨rfl, by simpa [Ne.symm hc] using hsep⟩
            · rintro ⟨h, hsep⟩
              rw [List.cons_append, List.cons.injEq] at h
              obtain ⟨rfl, rfl⟩ := h
              exact ⟨(before, behind), ih.mpr ⟨rfl, fun hm => hsep (List.mem_cons_of_mem _ hm)⟩, rfl⟩

theorem cutAt?_eq_none_iff {sep : Char} {cs : List Char} : cutAt? sep cs = none ↔ sep ∉ cs := by
  induction cs with
  | nil => simp [cutAt?]
  | cons c cs ih =>
      rw [cutAt?]
      by_cases hc : c = sep
      · simp [hc]
      · simp [hc, Ne.symm hc, ih]

theorem cutAt?_append {sep : Char} (rest : List Char) {cs : List Char} (h : sep ∉ cs) :
    cutAt? sep (cs ++ sep :: rest) = some (cs, rest) :=
  cutAt?_eq_some_iff.mpr ⟨rfl, h⟩

end Text

namespace Item

theorem toList_name (i : Item) :
    i.name.toList = stem.toList ++ (Numeral.write i.id).toList := by
  simp [name]

theorem id_bounds (i : Item) : 1 ≤ i.id ∧ i.id ≤ 30 := by
  have := i.index.isLt
  simp only [id]
  omega

theorem id_lt_numberBound (i : Item) : i.id < numberBound :=
  Nat.lt_of_le_of_lt (id_bounds i).2 (by decide)

theorem ofId?_id (i : Item) : ofId? i.id = some i := by
  rw [ofId?, dif_pos (id_bounds i)]
  simp [id]

/-- An item is read back from its name. -/
theorem parse_name (i : Item) : parse i.name = .ok i := by
  have ha : Text.after? stem.toList i.name.toList = some (Numeral.write i.id).toList :=
    Text.after?_eq_some_iff.mpr (toList_name i)
  have hr : Numeral.read numberBound (Numeral.write i.id).toList = .ok i.id :=
    Numeral.read_write (id_lt_numberBound i)
  simp only [parse, ha, hr, ofId?_id]

theorem toOption_parse_eq_some_iff {text : String} {i : Item} :
    (parse text).toOption = some i ↔ parse text = .ok i := by
  cases parse text <;> simp [Except.toOption]

theorem separator_not_mem_name (i : Item) : '_' ∉ i.name.toList := by
  rw [toList_name, List.mem_append, not_or]
  refine ⟨by decide, fun h => ?_⟩
  exact absurd (Numeral.isDigit_of_mem_write h) (by decide)

end Item

namespace SubscriptionId

theorem read_write (n : SubscriptionId) : read (Numeral.write n.toNat).toList = .ok n := by
  simp only [read, Numeral.read_write (UInt64.toNat_lt_size n), Except.map, UInt64.ofNat_toNat]

end SubscriptionId

namespace Request

theorem readTarget_write (text : String) (i : Item) (n : SubscriptionId) :
    readTarget text (i.name.toList ++ '_' :: (Numeral.write n.toNat).toList) = .ok (i, n) := by
  simp only [readTarget, Text.cutAt?_append _ (Item.separator_not_mem_name i),
    SubscriptionId.read_write, String.ofList_toList, Item.parse_name]

theorem toList_text_subscribe (i : Item) (n : SubscriptionId) :
    (text (.subscribe i n)).toList =
      "subscribe".toList ++ (i.name.toList ++ '_' :: (Numeral.write n.toNat).toList) := by
  simp [text, command]

theorem toList_text_unsubscribe (i : Item) (n : SubscriptionId) :
    (text (.unsubscribe i n)).toList =
      "unsubscribe".toList ++ (i.name.toList ++ '_' :: (Numeral.write n.toNat).toList) := by
  simp [text, command]

/-- A request is read back from its text. -/
theorem parse_text (r : Request) : parse r.text = .ok r := by
  cases r with
  | reset => simp [parse, text, command]
  | subscribe i n =>
      have hl := toList_text_subscribe i n
      have hne : text (.subscribe i n) ≠ "reset" := by
        intro h
        rw [h] at hl
        simp at hl
      have ha := Text.after?_eq_some_iff.mpr hl
      simp only [parse, hne, if_false, ha, readTarget_write, Except.map]
  | unsubscribe i n =>
      have hl := toList_text_unsubscribe i n
      have hne : text (.unsubscribe i n) ≠ "reset" := by
        intro h
        rw [h] at hl
        simp at hl
      have hs : Text.after? "subscribe".toList (text (.unsubscribe i n)).toList = none := by
        rw [hl]
        simp [Text.after?]
      have ha := Text.after?_eq_some_iff.mpr hl
      simp only [parse, hne, if_false, hs, ha, readTarget_write, Except.map]

end Request

theorem fromUTF8?_toUTF8 (s : String) : String.fromUTF8? s.toUTF8 = some s := by
  rw [String.fromUTF8?, String.toUTF8_eq_toByteArray, dif_pos s.isValidUTF8]
  rfl

/-- The generator reads the octets of a request as that request. -/
theorem Generator.readRequest_text (r : Request) : readRequest r.text.toUTF8 = some r := by
  rw [readRequest, fromUTF8?_toUTF8, Option.bind_some, Request.parse_text]
  rfl

end QuoteBridge
