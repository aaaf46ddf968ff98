import QuoteBridge.Text.Numeral

/-!
# Spellings of numbers

A number has many numerals: any number of zeros may stand in front of its digits, and one `+` in
front of these.  The reader takes the digits one by one and stops at the first fault, yet it accepts
a text exactly if that is a numeral of a number below the bound.

**Results.**
* `Numeral.digit?_eq_some_iff`: the decimal digits and their values.
* `Numeral.readFrom_eq_ok_iff`: the digits that can follow a value.
* `Numeral.read_eq_ok_iff`: exactly the numerals of the numbers below the bound are read.
* `Numeral.read_write`: a number is read back from its shortest numeral.
* `Numeral.decimal_iff`: the digits of a number are its shortest ones with any zeros in front.
* `Numeral.Spells.unique`: a text is a numeral of one number only.
-/

namespace QuoteBridge
namespace Numeral

section Digits

theorem isDigit_iff {c : Char} : c.isDigit = true ↔ '0' ≤ c ∧ c ≤ '9' := by
  simp [Char.isDigit, Char.le_def]

theorem value_lt_ten {c : Char} (h : c.isDigit = true) : c.toNat - '0'.toNat < 10 := by
  have hn : c.toNat ≤ '9'.toNat := (isDigit_iff.mp h).2
  have h9 : '9'.toNat = 57 := rfl
  have h0 : '0'.toNat = 48 := rfl
  omega

theorem digit?_of_isDigit {c : Char} (h : c.isDigit = true) :
    Text.digit? 10 c = some (c.toNat - '0'.toNat) := by
  simp only [Text.digit?, Text.hexDigit?, isDigit_iff.mp h, and_self, if_true, Option.filter_some,
    value_lt_ten h, decide_true]

theorem le_ofDigitChars (cs : List Char) (acc : Nat) : acc ≤ Nat.ofDigitChars 10 cs acc := by
  induction cs generalizing acc with
  | nil => simp
  | cons c cs ih =>
      have hrest := ih (10 * acc + (c.toNat - '0'.toNat))
      rw [Nat.ofDigitChars_cons]
      omega

theorem readFrom_of_isDigit {bound : Nat} {cs : List Char} {acc : Nat}
    (hd : ∀ c ∈ cs, c.isDigit = true) (hb : Nat.ofDigitChars 10 cs acc < bound) :
    readFrom bound acc cs = .ok (Nat.ofDigitChars 10 cs acc) := by
  induction cs generalizing acc with
  | nil => simp [readFrom]
  | cons c cs ih =>
      have hc := digit?_of_isDigit (hd c List.mem_cons_self)
      rw [Nat.ofDigitChars_cons, Nat.mul_comm 10 acc] at hb ⊢
      have hlt : acc * 10 + (c.toNat - '0'.toNat) < bound :=
        Nat.lt_of_le_of_lt (le_ofDigitChars cs _) hb
      have hrest := ih (fun x hx => hd x (List.mem_cons_of_mem _ hx)) hb
      simp only [readFrom, hc, hlt, if_true, hrest]

theorem digit?_eq_some_iff {c : Char} {d : Nat} :
    Text.digit? 10 c = some d ↔ c.isDigit = true ∧ d = c.toNat - '0'.toNat := by
  constructor
  · intro h
    by_cases hc : c.isDigit = true
    · rw [digit?_of_isDigit hc] at h
      exact ⟨hc, (Option.some.inj h).symm⟩
    · have hnot : ¬ ('0' ≤ c ∧ c ≤ '9') := mt isDigit_iff.mpr hc
      obtain ⟨hhex, hlt⟩ := Option.filter_eq_some_iff.mp h
      simp only [Text.hexDigit?, hnot, if_false] at hhex
      split at hhex
      · cases hhex
        have hsmall := of_decide_eq_true hlt
        omega
      split at hhex
      · cases hhex
        have hsmall := of_decide_eq_true hlt
        omega
      · cases hhex
  · rintro ⟨hc, rfl⟩
    exact digit?_of_isDigit hc

theorem readFrom_eq_ok_iff {bound acc n : Nat} {cs : List Char} (ha : acc < bound) :
    readFrom bound acc cs = .ok n ↔
      (∀ c ∈ cs, c.isDigit = true) ∧ Nat.ofDigitChars 10 cs acc = n ∧ n < bound := by
  constructor
  · intro h
    induction cs generalizing acc with
    | nil =>
        cases h
        simpa using ha
    | cons c cs ih =>
        rw [readFrom] at h
        cases hd : Text.digit? 10 c with
        | none => simp [hd] at h
        | some d =>
            obtain ⟨hc, rfl⟩ := digit?_eq_some_iff.mp hd
            simp only [hd] at h
            split at h
            · rename_i hlt
              obtain ⟨hcs, hv, hn⟩ := ih hlt h
              refine ⟨?_, ?_, hn⟩
              · simpa [hc] using hcs
              · rw [Nat.ofDigitChars_cons, Nat.mul_comm]
                exact hv
            · cases h
  · rintro ⟨hd, rfl, hn⟩
    exact readFrom_of_isDigit hd hn

end Digits

section Spellings

/-- One or more decimal digits with a value. -/
def Decimal (ds : List Char) (n : Nat) : Prop :=
  ds ≠ [] ∧ (∀ c ∈ ds, c.isDigit = true) ∧ Nat.ofDigitChars 10 ds 0 = n

/-- The numerals of a number: its digits, with any zeros and at most one `+` in front. -/
def Spells (cs : List Char) (n : Nat) : Prop :=
  ∃ ds, (cs = ds ∨ cs = '+' :: ds) ∧ Decimal ds n

theorem Decimal.head_ne_plus {c : Char} {ds : List Char} {n : Nat} (h : Decimal (c :: ds) n) :
    c ≠ '+' := by
  rintro rfl
  exact absurd (h.2.1 '+' List.mem_cons_self) (by decide)

/-- Digits are no text with anything else in it. -/
theorem Spells.not_mem {sep : Char} (hs : sep.isDigit = false) (hp : sep ≠ '+') {cs : List Char}
    {n : Nat} (h : Spells cs n) : sep ∉ cs := by
  obtain ⟨ds, hcs, -, hd, -⟩ := h
  have hds : sep ∉ ds := by
    intro hm
    rw [hd sep hm] at hs
    cases hs
  rcases hcs with rfl | rfl
  · exact hds
  · simpa [hp] using hds

theorem readFrom_eq_ok_iff_decimal {bound n : Nat} {cs : List Char} (hb : 0 < bound)
    (hne : cs ≠ []) : readFrom bound 0 cs = .ok n ↔ Decimal cs n ∧ n < bound := by
  rw [readFrom_eq_ok_iff hb, Decimal]
  constructor
  · rintro ⟨hd, hv, hn⟩
    exact ⟨⟨hne, hd, hv⟩, hn⟩
  · rintro ⟨⟨-, hd, hv⟩, hn⟩
    exact ⟨hd, hv, hn⟩

/-- Exactly the numerals of the numbers below the bound are read, each as its number. -/
theorem read_eq_ok_iff {bound n : Nat} {cs : List Char} (hb : 0 < bound) :
    read bound cs = .ok n ↔ Spells cs n ∧ n < bound := by
  unfold read
  split
  · constructor
    · nofun
    · rintro ⟨⟨ds, hds | hds, hne, -⟩, -⟩
      · exact absurd hds.symm hne
      · cases hds
  · constructor
    · nofun
    · rintro ⟨⟨ds, rfl | hds, hdec⟩, -⟩
      · exact absurd rfl hdec.head_ne_plus
      · exact absurd (List.cons.inj hds).2.symm hdec.1
  · rename_i cs hne
    rw [readFrom_eq_ok_iff_decimal hb (fun h => hne h)]
    constructor
    · rintro ⟨hdec, hn⟩
      exact ⟨⟨cs, Or.inr rfl, hdec⟩, hn⟩
    · rintro ⟨⟨ds, rfl | hds, hdec⟩, hn⟩
      · exact absurd rfl hdec.head_ne_plus
      · rw [(List.cons.inj hds).2]
        exact ⟨hdec, hn⟩
  · rename_i hne _ hsign
    rw [readFrom_eq_ok_iff_decimal hb hne]
    constructor
    · rintro ⟨hdec, hn⟩
      exact ⟨⟨cs, Or.inl rfl, hdec⟩, hn⟩
    · rintro ⟨⟨ds, rfl | hds, hdec⟩, hn⟩
      · exact ⟨hdec, hn⟩
      · exact absurd hds (hsign ds)

end Spellings

section Shortest

theorem toList_write (n : Nat) : (write n).toList = Nat.toDigits 10 n :=
  Nat.toList_repr

theorem isDigit_of_mem_write {n : Nat} {c : Char} (h : c ∈ (write n).toList) :
    c.isDigit = true := by
  rw [toList_write] at h
  exact Nat.isDigit_of_mem_toDigits (by decide) (by decide) h

theorem read_of_isDigit {bound : Nat} {cs : List Char} (hne : cs ≠ [])
    (hd : ∀ c ∈ cs, c.isDigit = true) : read bound cs = readFrom bound 0 cs := by
  cases cs with
  | nil => exact absurd rfl hne
  | cons c cs =>
      have hc : c ≠ '+' := by
        rintro rfl
        exact absurd (hd '+' List.mem_cons_self) (by decide)
      unfold read
      split
      · rename_i heq
        cases heq
      · rename_i heq
        exact absurd (List.cons.inj heq).1 hc
      · rename_i heq
        exact absurd (List.cons.inj heq).1 hc
      · rfl

/-- A number is read back from its shortest numeral. -/
theorem read_write {bound n : Nat} (h : n < bound) : read bound (write n).toList = .ok n := by
  have hne : (write n).toList ≠ [] := by
    rw [toList_write]
    exact Nat.toDigits_ne_nil
  have hv : Nat.ofDigitChars 10 (write n).toList 0 = n := by
    rw [toList_write]
    exact Nat.ofDigitChars_ten_toDigits
  rw [read_of_isDigit hne (fun c hc => isDigit_of_mem_write hc),
    readFrom_of_isDigit (fun c hc => isDigit_of_mem_write hc) (by rw [hv]; exact h), hv]

end Shortest

section Zeros

theorem digitChar_value {c : Char} (h : c.isDigit = true) :
    Nat.digitChar (c.toNat - '0'.toNat) = c := by
  have hlow : '0'.toNat ≤ c.toNat := (isDigit_iff.mp h).1
  have hvalue := Nat.toNat_digitChar_of_lt_ten (value_lt_ten h)
  have h0 : '0'.toNat = 48 := rfl
  apply Char.toNat_inj.mp
  omega

/-- Digits behind the shortest ones of a positive number make the shortest ones of the number that
they continue. -/
theorem toDigits_append {acc : Nat} {cs : List Char} (ha : 0 < acc)
    (hd : ∀ c ∈ cs, c.isDigit = true) :
    Nat.toDigits 10 acc ++ cs = Nat.toDigits 10 (Nat.ofDigitChars 10 cs acc) := by
  induction cs generalizing acc with
  | nil => simp
  | cons c cs ih =>
      have hc := hd c List.mem_cons_self
      have hone : Nat.toDigits 10 acc ++ [c] =
          Nat.toDigits 10 (10 * acc + (c.toNat - '0'.toNat)) := by
        rw [← Nat.toDigits_append_toDigits (by decide) ha (value_lt_ten hc),
          Nat.toDigits_of_lt_base (value_lt_ten hc), digitChar_value hc]
      have hpos : 0 < 10 * acc + (c.toNat - '0'.toNat) := by omega
      have hrest := ih hpos (fun x hx => hd x (List.mem_cons_of_mem _ hx))
      rw [Nat.ofDigitChars_cons, ← hrest, ← hone, List.append_assoc, List.singleton_append]

/-- The digits of a number are its shortest ones with any zeros in front. -/
theorem decimal_iff {ds : List Char} {n : Nat} :
    Decimal ds n ↔ ∃ zeros, ds = List.replicate zeros '0' ++ (write n).toList := by
  rw [toList_write]
  constructor
  · rintro ⟨hne, hd, rfl⟩
    induction ds with
    | nil => exact absurd rfl hne
    | cons c cs ih =>
        have hc := hd c List.mem_cons_self
        have hcs : ∀ x ∈ cs, x.isDigit = true := fun x hx => hd x (List.mem_cons_of_mem _ hx)
        rw [Nat.ofDigitChars_cons, Nat.mul_zero, Nat.zero_add]
        by_cases hzero : c = '0'
        · subst hzero
          rw [Nat.sub_self]
          cases cs with
          | nil => exact ⟨0, rfl⟩
          | cons c' cs =>
              obtain ⟨zeros, hzeros⟩ := ih (List.cons_ne_nil _ _) hcs
              exact ⟨zeros + 1, by rw [List.replicate_succ, List.cons_append, ← hzeros]⟩
        · have hpos : 0 < c.toNat - '0'.toNat := by
            refine Nat.pos_of_ne_zero (fun hv => hzero ?_)
            rw [← digitChar_value hc, hv]
            rfl
          have happend := toDigits_append hpos hcs
          rw [Nat.toDigits_of_lt_base (value_lt_ten hc), digitChar_value hc] at happend
          exact ⟨0, happend⟩
  · rintro ⟨zeros, rfl⟩
    refine ⟨?_, ?_, ?_⟩
    · exact List.append_ne_nil_of_right_ne_nil _ Nat.toDigits_ne_nil
    · intro c hc
      rcases List.mem_append.mp hc with hc | hc
      · rw [List.eq_of_mem_replicate hc]
        rfl
      · exact Nat.isDigit_of_mem_toDigits (by decide) (by decide) hc
    · rw [Nat.ofDigitChars_append, Nat.ofDigitChars_replicate_zero, Nat.mul_zero,
        Nat.ofDigitChars_ten_toDigits]

/-- A text is a numeral of one number only. -/
theorem Spells.unique {cs : List Char} {n m : Nat} (hn : Spells cs n) (hm : Spells cs m) :
    n = m := by
  have hbound : 0 < max n m + 1 := Nat.succ_pos _
  have hrn := (read_eq_ok_iff hbound).mpr ⟨hn, Nat.lt_succ_of_le (Nat.le_max_left n m)⟩
  have hrm := (read_eq_ok_iff hbound).mpr ⟨hm, Nat.lt_succ_of_le (Nat.le_max_right n m)⟩
  exact Except.ok.inj (hrn.symm.trans hrm)

theorem spells_write (n : Nat) : Spells (write n).toList n :=
  ⟨_, Or.inl rfl, decimal_iff.mpr ⟨0, rfl⟩⟩

end Zeros

end Numeral
end QuoteBridge
