import QuoteBridge.Proofs.Message.RoundTrip
import QuoteBridge.Proofs.Request.Grammar

/-!
# Names of items

A text names a number if it is the stem with a numeral of that number behind it.

**Canonical names.**  The numbers from 1 to 30 are those of the items, and whatever the spelling,
the item has the name with neither a sign nor zeros.  An item is obtained from a text, from a
number, from a message or from the list of all; in each case its name has the number that it was
asked for, so names and numbers tell the same items apart.

**Refused texts.**  A text that names no item is refused for one of three causes.  Their
descriptions know no bound for numbers, but the reader has one: a number that is not below it is
refused as if it were none.

**Results.**
* `Item.names_iff`: the texts that name a number.
* `Item.names_canonical`: the accepted texts and the names that come of them.
* `Item.refused_for_cause`: the cause for which a text is refused, and when it is the described one.
-/

namespace QuoteBridge
namespace Item

variable {text : String} {i j : Item} {n m : Nat} {e : ItemError}

section Spellings

/-- The text is the stem and a numeral of the number. -/
def Names (text : String) (n : Nat) : Prop :=
  ∃ cs, text.toList = stem.toList ++ cs ∧ Numeral.Spells cs n

theorem Names.unique (hn : Names text n) (hm : Names text m) : n = m := by
  obtain ⟨cs, htext, hcs⟩ := hn
  obtain ⟨ds, htext', hds⟩ := hm
  rw [htext] at htext'
  obtain rfl := List.append_cancel_left htext'
  exact hcs.unique hds

/-- A number is named by its shortest numeral behind the stem, with at most one `+` and any zeros
between the two. -/
theorem names_iff :
    Names text n ↔ ∃ (sign : String) (zeros : Nat), (sign = "" ∨ sign = "+") ∧
      text = stem ++ sign ++ String.ofList (List.replicate zeros '0') ++ Numeral.write n := by
  constructor
  · rintro ⟨cs, htext, ds, hcs, hds⟩
    obtain ⟨zeros, rfl⟩ := Numeral.decimal_iff.mp hds
    rcases hcs with rfl | rfl
    · refine ⟨"", zeros, Or.inl rfl, String.toList_inj.mp ?_⟩
      simpa using htext
    · refine ⟨"+", zeros, Or.inr rfl, String.toList_inj.mp ?_⟩
      simpa using htext
  · rintro ⟨sign, zeros, hsign, rfl⟩
    have hds : Numeral.Decimal (List.replicate zeros '0' ++ (Numeral.write n).toList) n :=
      Numeral.decimal_iff.mpr ⟨zeros, rfl⟩
    rcases hsign with rfl | rfl
    · exact ⟨_, by simp, _, Or.inl rfl, hds⟩
    · exact ⟨_, by simp, _, Or.inr rfl, hds⟩

theorem names_write (n : Nat) : Names (stem ++ Numeral.write n) n :=
  ⟨_, String.toList_append, Numeral.spells_write n⟩

theorem names_id_of_parse (h : parse text = .ok i) : Names text i.id :=
  parse_eq_ok_iff.mp h

end Spellings

section Reading

theorem exists_id_eq (h : 1 ≤ n ∧ n ≤ 30) : ∃ i : Item, i.id = n :=
  ⟨⟨⟨n - 1, by omega⟩⟩, Nat.sub_add_cancel h.1⟩

theorem id_injective (h : i.id = j.id) : i = j := by
  have hindex : i.index = j.index := Fin.ext (Nat.succ.inj h)
  cases i
  cases j
  exact congrArg mk hindex

theorem parse_eq_ok_iff_of_names (h : Names text n) : parse text = .ok i ↔ i.id = n := by
  constructor
  · intro hi
    exact (names_id_of_parse hi).unique h
  · rintro rfl
    exact parse_eq_ok_iff.mpr h

theorem ofId_eq_ok_iff : ofId n = .ok i ↔ i.id = n :=
  parse_eq_ok_iff_of_names (names_write n)

/-- The texts of the numbers from 1 to 30 are accepted, and no others. -/
theorem accepted_iff : (∃ i, parse text = .ok i) ↔ ∃ n, Names text n ∧ 1 ≤ n ∧ n ≤ 30 := by
  constructor
  · rintro ⟨i, hi⟩
    exact ⟨i.id, names_id_of_parse hi, id_bounds i⟩
  · rintro ⟨n, hn, hrange⟩
    obtain ⟨i, hi⟩ := exists_id_eq hrange
    exact ⟨i, (parse_eq_ok_iff_of_names hn).mpr hi⟩

/-- The number behind the stem of a name, or 0 if none is read there. -/
def numberIn (name : String) : Nat :=
  match Numeral.read numberBound (name.toList.drop stem.length) with
  | .error _ => 0
  | .ok n => n

theorem numberIn_name (i : Item) : numberIn i.name = i.id := by
  have hdrop : i.name.toList.drop stem.length = (Numeral.write i.id).toList := by
    rw [toList_name, ← String.length_toList, List.drop_left]
  rw [numberIn, hdrop, Numeral.read_write (id_lt_numberBound i)]

end Reading

section Sources

/-- How an item is come by, with the number that was asked for: by its name, by its number, by a
message's value, or by its place in the list of all. -/
inductive Obtained : Item → Nat → Prop
  | parsed {text : String} {i : Item} {n : Nat} (hn : Names text n) (h : parse text = .ok i) :
      Obtained i n
  | numbered {i : Item} {n : Nat} (h : ofId n = .ok i) : Obtained i n
  | decoded {text : String} {i : Item} {n : Nat} (hn : Names text n)
      (h : Message.readItem (.text text) = some i) : Obtained i n
  | listed {i : Item} {k : Nat} (h : all[k]? = some i) : Obtained i (k + 1)

theorem readItem_eq_some_iff : Message.readItem (.text text) = some i ↔ parse text = .ok i :=
  toOption_parse_eq_some_iff

theorem id_of_listed {k : Nat} (h : all[k]? = some i) : i.id = k + 1 := by
  simp only [all, List.getElem?_map, Option.map_eq_some_iff] at h
  obtain ⟨index, hindex, rfl⟩ := h
  obtain ⟨hk, rfl⟩ := List.getElem?_eq_some_iff.mp hindex
  simp [id]

theorem Obtained.id_eq (h : Obtained i n) : i.id = n := by
  cases h with
  | parsed hn h => exact (parse_eq_ok_iff_of_names hn).mp h
  | numbered h => exact ofId_eq_ok_iff.mp h
  | decoded hn h => exact (parse_eq_ok_iff_of_names hn).mp (readItem_eq_some_iff.mp h)
  | listed h => exact id_of_listed h

theorem name_eq_iff : i.name = j.name ↔ i.id = j.id := by
  constructor
  · intro h
    rw [name_injective h]
  · intro h
    rw [id_injective h]

/-- Exactly the spellings of the numbers from 1 to 30 are accepted, and each becomes the one name
without sign and zeros, which is accepted as itself and is the name for the number.  Wherever an
item comes from, its number is the one that was asked for and that its name shows, its name holds no
separator, and equal names are equal numbers. -/
theorem names_canonical :
    (∀ text, (∃ i, parse text = .ok i) ↔ ∃ n, Names text n ∧ 1 ≤ n ∧ n ≤ 30) ∧
    (∀ text n, Names text n ↔ ∃ (sign : String) (zeros : Nat), (sign = "" ∨ sign = "+") ∧
      text = stem ++ sign ++ String.ofList (List.replicate zeros '0') ++ Numeral.write n) ∧
    (∀ text n i, Names text n → (parse text = .ok i ↔ ofId n = .ok i)) ∧
    (∀ text n i, Names text n → parse text = .ok i →
      i.name = stem ++ Numeral.write n ∧ parse i.name = .ok i) ∧
    (∀ i n, Obtained i n → i.id = n ∧ numberIn i.name = n ∧ '_' ∉ i.name.toList) ∧
    ∀ i j n m, Obtained i n → Obtained j m → (i.name = j.name ↔ i.id = j.id) := by
  refine ⟨fun text => accepted_iff, fun text n => names_iff, ?_, ?_, ?_, ?_⟩
  · intro text n i hn
    rw [parse_eq_ok_iff_of_names hn, ofId_eq_ok_iff]
  · intro text n i hn hi
    obtain rfl := (parse_eq_ok_iff_of_names hn).mp hi
    exact ⟨rfl, parse_name i⟩
  · intro i n h
    obtain rfl := h.id_eq
    exact ⟨rfl, numberIn_name i, separator_not_mem_name i⟩
  · intro i j n m _ _
    exact name_eq_iff

theorem names_canonical_demo :
    Names "item+005" 5 ∧ parse "item+005" = .ok ⟨4⟩ ∧ (⟨4⟩ : Item).name = "item5" ∧
      numberIn "item5" = 5 ∧ ofId 5 = .ok ⟨4⟩ ∧ (⟨4⟩ : Item).name ≠ (⟨5⟩ : Item).name := by
  obtain ⟨haccepted, hnames, hofId, hname, hobtained, hequal⟩ := names_canonical
  have hfive : Names "item+005" 5 := (hnames _ _).mpr ⟨"+", 2, Or.inr rfl, by decide⟩
  obtain ⟨i, hi⟩ := (haccepted "item+005").mpr ⟨5, hfive, by decide, by decide⟩
  obtain ⟨hid, hnumber, -⟩ := hobtained i 5 (.parsed hfive hi)
  obtain rfl : i = ⟨4⟩ := id_injective hid
  have hsix : Obtained ⟨5⟩ 6 := .listed rfl
  have hne := mt (hequal _ _ _ _ (.parsed hfive hi) hsix).mp (by decide)
  exact ⟨hfive, hi, (hname _ _ _ hfive hi).1, hnumber, (hofId _ _ _ hfive).mp hi, hne⟩

end Sources

section Refusals

/-- The error is the one whose description fits the text, where numbers of any size are numbers. -/
structure Described (text : String) (e : ItemError) : Prop where
  missingPrefix : e = .missingPrefix text ↔ ¬ stem.toList <+: text.toList
  nonNumeric : e = .nonNumeric text ↔ stem.toList <+: text.toList ∧ ∀ n, ¬ Names text n
  outOfRange : (∃ n, e = .outOfRange text n) ↔ ∃ n, Names text n ∧ ¬ (1 ≤ n ∧ n ≤ 30)
  name : e.name = text

theorem parse_of_stemless (h : ¬ stem.toList <+: text.toList) :
    parse text = .error (.missingPrefix text) := by
  cases ha : Text.after? stem.toList text.toList with
  | none => simp only [parse, ha]
  | some cs => exact absurd ⟨cs, (Text.after?_eq_some_iff.mp ha).symm⟩ h

theorem parse_out_of_range (h : Names text n) (hn : n < numberBound)
    (hrange : ¬ (1 ≤ n ∧ n ≤ 30)) : parse text = .error (.outOfRange text n) := by
  obtain ⟨cs, htext, hcs⟩ := h
  have ha := Text.after?_eq_some_iff.mpr htext
  have hr := (Numeral.read_eq_ok_iff (by decide)).mpr ⟨hcs, hn⟩
  simp only [parse, ha, hr, ofId?, dif_neg hrange]

/-- A text whose number is not below the bound is refused like one without a number. -/
theorem parse_of_unread (hp : stem.toList <+: text.toList)
    (h : ∀ n, Names text n → numberBound ≤ n) : parse text = .error (.nonNumeric text) := by
  obtain ⟨cs, htext⟩ := hp
  have ha := Text.after?_eq_some_iff.mpr htext.symm
  cases hr : Numeral.read numberBound cs with
  | error f => simp only [parse, ha, hr]
  | ok n =>
      obtain ⟨hcs, hn⟩ := (Numeral.read_eq_ok_iff (by decide)).mp hr
      exact absurd hn (Nat.not_lt.mpr (h n ⟨cs, htext.symm, hcs⟩))

/-- The causes of a refusal, each with what the text is like. -/
theorem refusal_cases (h : parse text = .error e) :
    (e = .missingPrefix text ∧ ¬ stem.toList <+: text.toList) ∨
    (e = .nonNumeric text ∧ stem.toList <+: text.toList ∧ ∀ n, Names text n → numberBound ≤ n) ∨
    ∃ n, e = .outOfRange text n ∧ Names text n ∧ ¬ (1 ≤ n ∧ n ≤ 30) ∧ n < numberBound := by
  by_cases hp : stem.toList <+: text.toList
  · by_cases hread : ∃ n, Names text n ∧ n < numberBound
    · obtain ⟨n, hn, hlt⟩ := hread
      have hrange : ¬ (1 ≤ n ∧ n ≤ 30) := by
        intro hrange
        obtain ⟨i, hi⟩ := accepted_iff.mpr ⟨n, hn, hrange⟩
        rw [hi] at h
        cases h
      rw [parse_out_of_range hn hlt hrange] at h
      cases h
      exact Or.inr (Or.inr ⟨n, rfl, hn, hrange, hlt⟩)
    · have hlarge : ∀ n, Names text n → numberBound ≤ n :=
        fun n hn => Nat.not_lt.mp (fun hlt => hread ⟨n, hn, hlt⟩)
      rw [parse_of_unread hp hlarge] at h
      cases h
      exact Or.inr (Or.inl ⟨rfl, hp, hlarge⟩)
  · rw [parse_of_stemless hp] at h
    cases h
    exact Or.inl ⟨rfl, hp⟩

theorem eq_missingPrefix_iff (h : parse text = .error e) :
    e = .missingPrefix text ↔ ¬ stem.toList <+: text.toList := by
  constructor
  · rintro rfl
    rcases refusal_cases h with ⟨-, hp⟩ | ⟨he, -⟩ | ⟨n, he, -⟩
    · exact hp
    · cases he
    · cases he
  · intro hp
    exact Except.error.inj (h.symm.trans (parse_of_stemless hp))

theorem eq_nonNumeric_iff (h : parse text = .error e) :
    e = .nonNumeric text ↔ stem.toList <+: text.toList ∧ ∀ n, Names text n → numberBound ≤ n := by
  constructor
  · rintro rfl
    rcases refusal_cases h with ⟨he, -⟩ | ⟨-, hunread⟩ | ⟨n, he, -⟩
    · cases he
    · exact hunread
    · cases he
  · rintro ⟨hp, hlarge⟩
    exact Except.error.inj (h.symm.trans (parse_of_unread hp hlarge))

theorem eq_outOfRange_iff (h : parse text = .error e) :
    e = .outOfRange text n ↔ Names text n ∧ ¬ (1 ≤ n ∧ n ≤ 30) ∧ n < numberBound := by
  constructor
  · rintro rfl
    rcases refusal_cases h with ⟨he, -⟩ | ⟨he, -⟩ | ⟨m, he, hm⟩
    · cases he
    · cases he
    · cases he
      exact hm
  · rintro ⟨hn, hrange, hlt⟩
    exact Except.error.inj (h.symm.trans (parse_out_of_range hn hlt hrange))

theorem name_of_refused (h : parse text = .error e) : e.name = text := by
  rcases refusal_cases h with ⟨rfl, -⟩ | ⟨rfl, -⟩ | ⟨n, rfl, -⟩ <;> rfl

theorem described_iff (h : parse text = .error e) :
    Described text e ↔ ∀ n, Names text n → n < numberBound := by
  constructor
  · intro hd n hn
    by_cases hrange : 1 ≤ n ∧ n ≤ 30
    · exact Nat.lt_of_le_of_lt hrange.2 (by decide)
    · obtain ⟨m, hm⟩ := hd.outOfRange.mpr ⟨n, hn, hrange⟩
      obtain ⟨hm, -, hlt⟩ := (eq_outOfRange_iff h).mp hm
      exact hn.unique hm ▸ hlt
  · intro hsmall
    refine ⟨eq_missingPrefix_iff h, ?_, ?_, name_of_refused h⟩
    · rw [eq_nonNumeric_iff h]
      have hnone : (∀ n, Names text n → numberBound ≤ n) ↔ ∀ n, ¬ Names text n :=
        ⟨fun hl n hn => Nat.not_lt.mpr (hl n hn) (hsmall n hn), fun hl n hn => absurd hn (hl n)⟩
      rw [hnone]
    · constructor
      · rintro ⟨n, hn⟩
        obtain ⟨hn, hrange, -⟩ := (eq_outOfRange_iff h).mp hn
        exact ⟨n, hn, hrange⟩
      · rintro ⟨n, hn, hrange⟩
        exact ⟨n, (eq_outOfRange_iff h).mpr ⟨hn, hrange, hsmall n hn⟩⟩

/-- A refused text lacks the stem, or names no number below the reader's bound, or names one that is
no item's; the error says which and carries the text.  It is the described one exactly if the text
names no number from the bound on. -/
theorem refused_for_cause (h : parse text = .error e) :
    e.name = text ∧
    (e = .missingPrefix text ↔ ¬ stem.toList <+: text.toList) ∧
    (e = .nonNumeric text ↔
      stem.toList <+: text.toList ∧ ∀ n, Names text n → numberBound ≤ n) ∧
    (∀ n, e = .outOfRange text n ↔ Names text n ∧ ¬ (1 ≤ n ∧ n ≤ 30) ∧ n < numberBound) ∧
    (Described text e ↔ ∀ n, Names text n → n < numberBound) := by
  refine ⟨name_of_refused h, eq_missingPrefix_iff h, eq_nonNumeric_iff h, ?_, described_iff h⟩
  exact fun n => eq_outOfRange_iff h

theorem refused_for_cause_demo :
    parse "item+031" = .error (.outOfRange "item+031" 31) ∧ Names "item+031" 31 ∧
      Described "item+031" (.outOfRange "item+031" 31) := by
  have h : parse "item+031" = .error (.outOfRange "item+031" 31) := by rfl
  obtain ⟨-, -, -, hrange, hdescribed⟩ := refused_for_cause h
  obtain ⟨hn, -, hlt⟩ := (hrange 31).mp rfl
  exact ⟨h, hn, hdescribed.mpr (fun m hm => hm.unique hn ▸ hlt)⟩

/-- A number that is out of the reader's range as well is refused as if the text had none. -/
theorem large_number_refused_as_none :
    Names "item4294967296" 4294967296 ∧
    parse "item4294967296" = .error (.nonNumeric "item4294967296") ∧
    ¬ ∀ text e, parse text = .error e → Described text e := by
  have hn : Names "item4294967296" 4294967296 := names_write 4294967296
  have h : parse "item4294967296" = .error (.nonNumeric "item4294967296") := by rfl
  refine ⟨hn, h, fun hall => ?_⟩
  exact absurd hn (((hall _ _ h).nonNumeric.mp rfl).2 _)

end Refusals

end Item
end QuoteBridge
