import QuoteBridge.Proofs.Request.RoundTrip

/-!
# The grammar of requests

Every text is a request in one way, or is rejected for one cause.

**Grammar.**  A request is `reset`, or a command with its target: a spelling of an item, the
separator and a numeral of a subscription id.  No spelling of an item holds the separator, so the
first one ends it.  `unsubscribe` does not begin with `subscribe`, so the command is certain.

**Causes.**  An unknown command comes first, then a missing separator, then an id that is no numeral
or too large, and last an item that is none.

**Results.**
* `Item.parse_eq_ok_iff`: the spellings of an item.
* `Request.readTarget_eq_ok_iff`, `Request.readTarget_eq_error_iff`: the targets, and what is wrong
  with a text that is none.
* `Request.parse_eq_error_iff`: the rejected texts with their causes.
* `Request.parse_follows_grammar`: all together, with the canonical text of a request.
-/

namespace QuoteBridge

section Parts

/-- The spellings of an item: the stem and a numeral of its number. -/
theorem Item.parse_eq_ok_iff {text : String} {i : Item} :
    parse text = .ok i ↔ ∃ cs, text.toList = stem.toList ++ cs ∧ Numeral.Spells cs i.id := by
  have hbound : 0 < numberBound := by decide
  constructor
  · intro h
    rw [parse] at h
    cases ha : Text.after? stem.toList text.toList with
    | none => simp [ha] at h
    | some cs =>
        cases hr : Numeral.read numberBound cs with
        | error f => simp [ha, hr] at h
        | ok k =>
            have hk := ((Numeral.read_eq_ok_iff hbound).mp hr).1
            simp only [ha, hr, ofId?] at h
            by_cases hrange : 1 ≤ k ∧ k ≤ 30
            · simp only [hrange, and_self, dif_pos] at h
              cases h
              have hid : k - 1 + 1 = k := Nat.sub_add_cancel hrange.1
              exact ⟨cs, Text.after?_eq_some_iff.mp ha, by rwa [id, hid]⟩
            · rw [dif_neg hrange] at h
              cases h
  · rintro ⟨cs, htext, hcs⟩
    have ha := Text.after?_eq_some_iff.mpr htext
    have hr := (Numeral.read_eq_ok_iff hbound).mpr ⟨hcs, id_lt_numberBound i⟩
    simp only [parse, ha, hr, ofId?_id]

theorem Item.separator_not_mem_of_parse {text : String} {i : Item} (h : parse text = .ok i) :
    '_' ∉ text.toList := by
  obtain ⟨cs, htext, hcs⟩ := parse_eq_ok_iff.mp h
  rw [htext, List.mem_append, not_or]
  exact ⟨by decide, hcs.not_mem rfl (by decide)⟩

theorem SubscriptionId.read_eq_ok_iff {cs : List Char} {n : SubscriptionId} :
    read cs = .ok n ↔ Numeral.Spells cs n.toNat := by
  have hbound : 0 < UInt64.size := by decide
  constructor
  · intro h
    cases hr : Numeral.read UInt64.size cs with
    | error f => simp [read, hr, Except.map] at h
    | ok k =>
        obtain ⟨hk, hlt⟩ := (Numeral.read_eq_ok_iff hbound).mp hr
        simp only [read, hr, Except.map, Except.ok.injEq] at h
        rwa [← h, UInt64.toNat_ofNat_of_lt' hlt]
  · intro h
    have hr := (Numeral.read_eq_ok_iff hbound).mpr ⟨h, UInt64.toNat_lt_size n⟩
    simp only [read, hr, Except.map, UInt64.ofNat_toNat]

end Parts

namespace Request

variable {text rest : String} {i : Item} {n : SubscriptionId} {e : RequestError}

section Targets

/-- The text is a command with its target: a spelling of the item, the separator and a numeral of
the subscription id. -/
def Asks (command : String) (i : Item) (n : SubscriptionId) (text : String) : Prop :=
  ∃ item id : String, text = command ++ (item ++ "_" ++ id) ∧ Item.parse item = .ok i ∧
    Numeral.Spells id.toList n.toNat

/-- What is wrong with the rest behind a command. -/
inductive BadTarget (text rest : String) : RequestError → Prop
  | missingSeparator (h : '_' ∉ rest.toList) : BadTarget text rest (.missingSeparator text)
  | invalidSubscriptionId {item id : String} (hrest : rest = item ++ "_" ++ id)
      (hitem : '_' ∉ item.toList) (hid : ∀ n : SubscriptionId, ¬ Numeral.Spells id.toList n.toNat) :
      BadTarget text rest (.invalidSubscriptionId text)
  | invalidItem {item id : String} {n : SubscriptionId} {cause : ItemError}
      (hrest : rest = item ++ "_" ++ id) (hitem : '_' ∉ item.toList)
      (hid : Numeral.Spells id.toList n.toNat) (h : Item.parse item = .error cause) :
      BadTarget text rest (.invalidItem cause)

/-- A text has no separator, or a first one. -/
theorem separator_cases (rest : String) :
    '_' ∉ rest.toList ∨ ∃ item id : String, rest = item ++ "_" ++ id ∧ '_' ∉ item.toList := by
  cases h : Text.cutAt? '_' rest.toList with
  | none => exact Or.inl (Text.cutAt?_eq_none_iff.mp h)
  | some r =>
      obtain ⟨item, id⟩ := r
      obtain ⟨hrest, hitem⟩ := Text.cutAt?_eq_some_iff.mp h
      refine Or.inr ⟨.ofList item, .ofList id, ?_, by simpa using hitem⟩
      apply String.toList_inj.mp
      simpa using hrest

theorem readTarget_of_not_mem (text : String) (h : '_' ∉ rest.toList) :
    readTarget text rest.toList = .error (.missingSeparator text) := by
  rw [readTarget, Text.cutAt?_eq_none_iff.mpr h]

/-- Behind the first separator stands the id, and the id is looked at first. -/
theorem readTarget_append (text : String) {item : String} (id : String) (h : '_' ∉ item.toList) :
    readTarget text (item ++ "_" ++ id).toList =
      match SubscriptionId.read id.toList with
      | .error _ => .error (.invalidSubscriptionId text)
      | .ok n =>
          match Item.parse item with
          | .error cause => .error (.invalidItem cause)
          | .ok i => .ok (i, n) := by
  have hcut : Text.cutAt? '_' (item ++ "_" ++ id).toList = some (item.toList, id.toList) :=
    Text.cutAt?_eq_some_iff.mpr ⟨by simp, h⟩
  rw [readTarget, hcut]
  cases hid : SubscriptionId.read id.toList with
  | error e => simp only [hid]
  | ok n =>
      cases hitem : Item.parse item with
      | error cause => simp only [String.ofList_toList, hid, hitem]
      | ok i => simp only [String.ofList_toList, hid, hitem]

theorem readTarget_eq_ok_iff :
    readTarget text rest.toList = .ok (i, n) ↔
      ∃ item id : String, rest = item ++ "_" ++ id ∧ Item.parse item = .ok i ∧
        Numeral.Spells id.toList n.toNat := by
  constructor
  · intro h
    rcases separator_cases rest with hsep | ⟨item, id, rfl, hitem⟩
    · rw [readTarget_of_not_mem text hsep] at h
      cases h
    · rw [readTarget_append text id hitem] at h
      split at h
      · cases h
      · rename_i hid
        split at h
        · cases h
        · rename_i hi
          cases h
          exact ⟨item, id, rfl, hi, SubscriptionId.read_eq_ok_iff.mp hid⟩
  · rintro ⟨item, id, rfl, hi, hid⟩
    rw [readTarget_append text id (Item.separator_not_mem_of_parse hi),
      SubscriptionId.read_eq_ok_iff.mpr hid, hi]

theorem readTarget_eq_error_iff :
    readTarget text rest.toList = .error e ↔ BadTarget text rest e := by
  constructor
  · intro h
    rcases separator_cases rest with hsep | ⟨item, id, rfl, hitem⟩
    · rw [readTarget_of_not_mem text hsep] at h
      cases h
      exact .missingSeparator hsep
    · rw [readTarget_append text id hitem] at h
      split at h
      · rename_i hid
        cases h
        refine .invalidSubscriptionId rfl hitem (fun n hn => ?_)
        rw [SubscriptionId.read_eq_ok_iff.mpr hn] at hid
        cases hid
      · rename_i hid
        split at h
        · rename_i hi
          cases h
          exact .invalidItem rfl hitem (SubscriptionId.read_eq_ok_iff.mp hid) hi
        · cases h
  · intro h
    cases h with
    | missingSeparator hsep => exact readTarget_of_not_mem text hsep
    | @invalidSubscriptionId item id hrest hitem hid =>
        rw [hrest, readTarget_append text id hitem]
        cases hr : SubscriptionId.read id.toList with
        | error f => rfl
        | ok n => exact absurd (SubscriptionId.read_eq_ok_iff.mp hr) (hid n)
    | @invalidItem item id n cause hrest hitem hid hi =>
        rw [hrest, readTarget_append text id hitem, SubscriptionId.read_eq_ok_iff.mpr hid, hi]

end Targets

section Commands

/-- Why a text is no request. -/
inductive Rejected (text : String) : RequestError → Prop
  | unknownCommand (hreset : text ≠ "reset") (hsub : ∀ rest, text ≠ "subscribe" ++ rest)
      (hunsub : ∀ rest, text ≠ "unsubscribe" ++ rest) : Rejected text (.unknownCommand text)
  | target {command rest : String} {e : RequestError}
      (hcommand : command = "subscribe" ∨ command = "unsubscribe") (htext : text = command ++ rest)
      (h : BadTarget text rest e) : Rejected text e

theorem after?_toList_iff {start : String} :
    Text.after? start.toList text.toList = some rest.toList ↔ text = start ++ rest := by
  rw [Text.after?_eq_some_iff, ← String.toList_inj, String.toList_append]

theorem after?_toList_eq_none_iff {start : String} :
    Text.after? start.toList text.toList = none ↔ ∀ rest, text ≠ start ++ rest := by
  constructor
  · intro h rest htext
    rw [after?_toList_iff.mpr htext] at h
    cases h
  · intro h
    cases ha : Text.after? start.toList text.toList with
    | none => rfl
    | some cs =>
        rw [← String.toList_ofList (l := cs), after?_toList_iff] at ha
        exact absurd ha (h _)

theorem parse_reset : parse "reset" = .ok .reset := rfl

theorem parse_subscribe (rest : String) :
    parse ("subscribe" ++ rest) =
      (readTarget ("subscribe" ++ rest) rest.toList).map (fun t => .subscribe t.1 t.2) := by
  have hne : "subscribe" ++ rest ≠ "reset" := by
    intro h
    simpa using congrArg String.toList h
  rw [parse, if_neg hne, after?_toList_iff.mpr rfl]

theorem parse_unsubscribe (rest : String) :
    parse ("unsubscribe" ++ rest) =
      (readTarget ("unsubscribe" ++ rest) rest.toList).map (fun t => .unsubscribe t.1 t.2) := by
  have hne : "unsubscribe" ++ rest ≠ "reset" := by
    intro h
    simpa using congrArg String.toList h
  have hsub : Text.after? "subscribe".toList ("unsubscribe" ++ rest).toList = none := by
    simp [Text.after?]
  rw [parse, if_neg hne, hsub, after?_toList_iff.mpr rfl]

theorem parse_unknown (hreset : text ≠ "reset") (hsub : ∀ rest, text ≠ "subscribe" ++ rest)
    (hunsub : ∀ rest, text ≠ "unsubscribe" ++ rest) :
    parse text = .error (.unknownCommand text) := by
  rw [parse, if_neg hreset, after?_toList_eq_none_iff.mpr hsub,
    after?_toList_eq_none_iff.mpr hunsub]

/-- A text is `reset`, has one of the two commands, or has no command. -/
theorem command_cases (text : String) :
    text = "reset" ∨ (∃ rest, text = "subscribe" ++ rest) ∨ (∃ rest, text = "unsubscribe" ++ rest) ∨
      (text ≠ "reset" ∧ (∀ rest, text ≠ "subscribe" ++ rest) ∧
        ∀ rest, text ≠ "unsubscribe" ++ rest) := by
  by_cases hreset : text = "reset"
  · exact Or.inl hreset
  by_cases hsub : ∃ rest, text = "subscribe" ++ rest
  · exact Or.inr (Or.inl hsub)
  by_cases hunsub : ∃ rest, text = "unsubscribe" ++ rest
  · exact Or.inr (Or.inr (Or.inl hunsub))
  · rw [not_exists] at hsub hunsub
    exact Or.inr (Or.inr (Or.inr ⟨hreset, hsub, hunsub⟩))

end Commands

section Texts

/-- The texts of a request. -/
def Written : Request → String → Prop
  | .reset, text => text = "reset"
  | .subscribe i n, text => Asks "subscribe" i n text
  | .unsubscribe i n, text => Asks "unsubscribe" i n text

theorem exists_of_map_eq_ok {make : Item × SubscriptionId → Request} {r : Request}
    (h : (readTarget text rest.toList).map make = .ok r) :
    ∃ i n, readTarget text rest.toList = .ok (i, n) ∧ make (i, n) = r := by
  cases ht : readTarget text rest.toList with
  | error e => simp [ht, Except.map] at h
  | ok t =>
      rw [ht] at h
      exact ⟨t.1, t.2, rfl, Except.ok.inj h⟩

theorem badTarget_of_map_eq_error {make : Item × SubscriptionId → Request}
    (h : (readTarget text rest.toList).map make = .error e) : BadTarget text rest e := by
  cases ht : readTarget text rest.toList with
  | error f =>
      rw [ht] at h
      cases h
      exact readTarget_eq_error_iff.mp ht
  | ok t => simp [ht, Except.map] at h

theorem parse_eq_ok_iff {r : Request} : parse text = .ok r ↔ Written r text := by
  constructor
  · intro h
    rcases command_cases text with rfl | ⟨rest, rfl⟩ | ⟨rest, rfl⟩ | ⟨hreset, hsub, hunsub⟩
    · cases h
      rfl
    · rw [parse_subscribe] at h
      obtain ⟨i, n, ht, rfl⟩ := exists_of_map_eq_ok h
      obtain ⟨item, id, rfl, hi, hid⟩ := readTarget_eq_ok_iff.mp ht
      exact ⟨item, id, rfl, hi, hid⟩
    · rw [parse_unsubscribe] at h
      obtain ⟨i, n, ht, rfl⟩ := exists_of_map_eq_ok h
      obtain ⟨item, id, rfl, hi, hid⟩ := readTarget_eq_ok_iff.mp ht
      exact ⟨item, id, rfl, hi, hid⟩
    · rw [parse_unknown hreset hsub hunsub] at h
      cases h
  · intro h
    cases r with
    | reset =>
        obtain rfl : text = "reset" := h
        exact parse_reset
    | subscribe i n =>
        obtain ⟨item, id, rfl, hi, hid⟩ := h
        rw [parse_subscribe, readTarget_eq_ok_iff.mpr ⟨item, id, rfl, hi, hid⟩]
        rfl
    | unsubscribe i n =>
        obtain ⟨item, id, rfl, hi, hid⟩ := h
        rw [parse_unsubscribe, readTarget_eq_ok_iff.mpr ⟨item, id, rfl, hi, hid⟩]
        rfl

theorem parse_eq_error_iff : parse text = .error e ↔ Rejected text e := by
  constructor
  · intro h
    rcases command_cases text with rfl | ⟨rest, rfl⟩ | ⟨rest, rfl⟩ | ⟨hreset, hsub, hunsub⟩
    · cases h
    · rw [parse_subscribe] at h
      exact .target (Or.inl rfl) rfl (badTarget_of_map_eq_error h)
    · rw [parse_unsubscribe] at h
      exact .target (Or.inr rfl) rfl (badTarget_of_map_eq_error h)
    · rw [parse_unknown hreset hsub hunsub] at h
      cases h
      exact .unknownCommand hreset hsub hunsub
  · intro h
    cases h with
    | unknownCommand hreset hsub hunsub => exact parse_unknown hreset hsub hunsub
    | target hcommand htext hbad =>
        have ht := readTarget_eq_error_iff.mpr hbad
        rcases hcommand with rfl | rfl
        · subst htext
          rw [parse_subscribe, ht]
          rfl
        · subst htext
          rw [parse_unsubscribe, ht]
          rfl

/-- A text is a request exactly as the grammar says and otherwise has the cause that the grammar
gives; a request is written with its shortest numerals and read back from that text. -/
theorem parse_follows_grammar (text : String) :
    (parse text = .ok .reset ↔ text = "reset") ∧
    (∀ i n, parse text = .ok (.subscribe i n) ↔ Asks "subscribe" i n text) ∧
    (∀ i n, parse text = .ok (.unsubscribe i n) ↔ Asks "unsubscribe" i n text) ∧
    (∀ e, parse text = .error e ↔ Rejected text e) ∧
    Request.reset.text = "reset" ∧
    (∀ i n, (Request.subscribe i n).text =
      "subscribe" ++ ("item" ++ toString i.id) ++ "_" ++ toString n.toNat) ∧
    (∀ i n, (Request.unsubscribe i n).text =
      "unsubscribe" ++ ("item" ++ toString i.id) ++ "_" ++ toString n.toNat) ∧
    ∀ r : Request, parse r.text = .ok r := by
  refine ⟨parse_eq_ok_iff, fun i n => parse_eq_ok_iff, fun i n => parse_eq_ok_iff, fun e => ?_,
    rfl, fun i n => rfl, fun i n => rfl, parse_text⟩
  exact parse_eq_error_iff

example : parse "subscribeitem+007_+0012" = .ok (.subscribe ⟨6⟩ 12) := by rfl

end Texts

end Request
end QuoteBridge
