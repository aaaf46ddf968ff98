import QuoteBridge.Json.Writer
import QuoteBridge.Proofs.Json.Reading

/-!
# Values read back

What is written for a value is one of its spellings, so it is read back as that value.

**Input.**  A value whose numbers are natural numbers below 2⁶⁴ and whose arrays and objects are at
most `Reader.maxDepth` deep.  Texts are arbitrary.

**Results.**
* `textSpelled_writeText`: a text is written as one of its spellings.
* `Number.spelled_ofNat`, `Number.isFinite_ofNat`: so is a natural number, which is finite.
* `Value.spelled_write`: so is a value.
* `Value.read_write`: a value is read back from its characters.
* `Value.readBytes_write`: a value is read back from the octets of its characters.
-/

namespace QuoteBridge
namespace Json

section Texts

theorem isHex_hexDigit {d : Nat} (hd : d < 16) : IsHex (hexDigit d) d := by
  have hdigit : ∀ d < 16, hexDigit d = Nat.digitChar d := by decide
  exact ⟨hd, Or.inl (hdigit d hd)⟩

/-- A control character is spelled by four digits. -/
theorem charSpelled_control {c : Char} (hc : c.toNat < 32) :
    CharSpelled ['\\', 'u', '0', '0', hexDigit (c.toNat / 16), hexDigit (c.toNat % 16)] c := by
  have hzero : IsHex '0' 0 := isHex_hexDigit (by decide)
  have hfour := FourHex.mk hzero hzero (isHex_hexDigit (d := c.toNat / 16) (by omega))
    (isHex_hexDigit (d := c.toNat % 16) (by omega))
  have hnumber : ((0 * 16 + 0) * 16 + c.toNat / 16) * 16 + c.toNat % 16 = c.toNat := by omega
  rw [hnumber] at hfour
  exact .unit hfour

theorem charSpelled_escapeChar (c : Char) : CharSpelled (escapeChar c) c := by
  unfold escapeChar
  split
  · subst_vars; exact .letter (by decide)
  split
  · subst_vars; exact .letter (by decide)
  split
  · subst_vars; exact .letter (by decide)
  split
  · subst_vars; exact .letter (by decide)
  split
  · subst_vars; exact .letter (by decide)
  split
  · subst_vars; exact .letter (by decide)
  split
  · subst_vars; exact .letter (by decide)
  split
  · rename_i hlow
    exact charSpelled_control hlow
  · rename_i hquote hback _ _ _ _ _ hlow
    exact .plain (Char.not_lt.mp hlow) hquote hback

theorem charsSpelled_escapes : ∀ s : List Char, CharsSpelled (s.flatMap escapeChar) s
  | [] => .nil
  | c :: s => .cons (charSpelled_escapeChar c) (charsSpelled_escapes s)

/-- A text is written as one of its spellings. -/
theorem textSpelled_writeText (s : String) : TextSpelled (writeText s) s :=
  .mk (charsSpelled_escapes s.toList)

end Texts

section Numbers

namespace Number

theorem le_valueFrom (acc : Nat) (ds : List Nat) : acc ≤ valueFrom acc ds := by
  induction ds generalizing acc with
  | nil => exact Nat.le_refl acc
  | cons d ds ih =>
      have h := ih (acc * 10 + d)
      simp only [valueFrom, List.foldl_cons] at h ⊢
      omega

/-- No digit of a number that fits is left out. -/
theorem takeDigits_of_lt {acc : Nat} {ds : List Nat} (h : valueFrom acc ds < wordBound) :
    takeDigits acc ds = (valueFrom acc ds, 0) := by
  induction ds generalizing acc with
  | nil => rfl
  | cons d ds ih =>
      have hacc : acc * 10 + d < wordBound := Nat.lt_of_le_of_lt (le_valueFrom _ ds) h
      rw [takeDigits, if_pos hacc, ih h]
      rfl

theorem valueFrom_digits (n : Nat) : valueFrom 0 (digits n) = n := by
  have h := Nat.ofDigitChars_ten_toDigits (n := n)
  rw [Nat.ofDigitChars_eq_foldl] at h
  simpa only [valueFrom, digits, List.foldl_map, Nat.mul_comm 10] using h

theorem significant_lt {n : Nat} (h : n < wordBound) : Rounding.significant 53 n < 1 <<< 65 := by
  have hbits : Rounding.bitLength n ≤ 64 := by
    unfold Rounding.bitLength
    split
    · exact Nat.zero_le _
    · rename_i hn
      have hlog : Nat.log2 n < 64 := (Nat.log2_lt hn).mpr h
      omega
  have hden : 2 ^ (Rounding.bitLength n - 53) ≤ 2 ^ 11 :=
    Nat.pow_le_pow_right (by decide) (by omega)
  have hnear : 2 * (Rounding.nearest n (2 ^ (Rounding.bitLength n - 53)) *
      2 ^ (Rounding.bitLength n - 53)) ≤ 2 * n + 2 ^ (Rounding.bitLength n - 53) :=
    (Rounding.two_mul_sub_le (Nat.two_pow_pos _)).1
  have hn : n < 2 ^ 64 := h
  rw [Rounding.significant, Nat.one_shiftLeft, Nat.shiftLeft_eq]
  omega

theorem isFinite_ofNat {n : Nat} (h : n < wordBound) : (ofNat n).isFinite = true := by
  have htake : takeDigits 0 (digits n) = (n, 0) := by
    rw [takeDigits_of_lt (by rw [valueFrom_digits]; exact h), valueFrom_digits]
  have hscaled : (ofNat n).scaled = (n, .ofNat 0) := by
    simp [scaled, ofNat, htake, takeDigits]
  have hone : Rounding.significant 53 (Nat.pow 10 0) = 1 := by decide
  have hbound : 1 <<< 65 ≤ overflowBound := by decide +kernel
  have hlt :
      Rounding.significant 53 n * Rounding.significant 53 (Nat.pow 10 0) < overflowBound := by
    rw [hone, Nat.mul_one]
    exact Nat.lt_of_lt_of_le (significant_lt h) hbound
  simp only [isFinite, hscaled, Bool.or_eq_true, Bool.and_eq_true, decide_eq_true_eq]
  exact Or.inr ⟨Nat.zero_le _, hlt⟩

theorem natural?_ofNat {n : Nat} (h : n < wordBound) : (ofNat n).natural? = some n := by
  simp [natural?, ofNat, valueFrom_digits, h]

theorem digits_of_le {n : Nat} (h : 10 ≤ n) : digits n = digits (n / 10) ++ [n % 10] := by
  simp [digits, Nat.toDigits_of_base_le (by decide) h,
    Nat.toNat_digitChar_sub_48_of_lt_ten (Nat.mod_lt n (by decide))]

theorem digits_digits (n : Nat) : Digits (digits n) := by
  intro d hd
  obtain ⟨c, hc, rfl⟩ := List.mem_map.mp hd
  have hdigit := Nat.isDigit_of_mem_toDigits (by decide) (by decide) hc
  have hle : c.toNat ≤ '9'.toNat :=
    (by simpa [Char.isDigit, Char.le_def] using hdigit : '0' ≤ c ∧ c ≤ '9').2
  have hnine : '9'.toNat - '0'.toNat = 9 := by decide
  omega

/-- The digits of a number other than zero do not begin with zero. -/
theorem whole_digits (n : Nat) : Whole (digits n) := by
  have hhead : n ≠ 0 → ∃ d ds, digits n = d :: ds ∧ d ≠ 0 := by
    induction n using Nat.strongRecOn with
    | ind n ih =>
        intro hn
        by_cases h : n < 10
        · have hone : ∀ n < 10, digits n = [n] := by decide
          exact ⟨n, [], hone n h, hn⟩
        · obtain ⟨d, ds, hds, hd⟩ := ih (n / 10) (by omega) (by omega)
          exact ⟨d, ds ++ [n % 10], by rw [digits_of_le (by omega), hds, List.cons_append], hd⟩
  by_cases hn : n = 0
  · subst hn
    exact .zero
  · obtain ⟨d, ds, hds, hd⟩ := hhead hn
    have h := digits_digits n
    rw [hds] at h ⊢
    exact .digits hd h

theorem writeDigits_eq {ds : List Nat} (h : Digits ds) : writeDigits ds = ds.map Nat.digitChar := by
  have hdigit : ∀ d < 10, Char.ofNat ('0'.toNat + d) = Nat.digitChar d := by decide
  exact List.map_congr_left (fun d hd => hdigit d (h d hd))

/-- A natural number is written as its spelling. -/
theorem spelled_ofNat (n : Nat) : NumberSpelled (ofNat n).write (ofNat n) := by
  have h : NumberSpelled _ ⟨false, digits n, [], none⟩ := .mk (whole_digits n) .none .none
  simpa [write, ofNat, writeDigits_eq (digits_digits n)] using h

end Number

end Numbers

section Values

mutual

/-- All numbers of a value are natural numbers of 64 bits. -/
def Value.Natural : Value → Prop
  | .number n => ∃ k < Number.wordBound, n = .ofNat k
  | .array items => NaturalItems items
  | .object members => NaturalMembers members
  | _ => True

/-- All numbers of the items of an array are natural numbers of 64 bits. -/
def NaturalItems : List Value → Prop
  | [] => True
  | v :: vs => v.Natural ∧ NaturalItems vs

/-- All numbers of the members of an object are natural numbers of 64 bits. -/
def NaturalMembers : List (String × Value) → Prop
  | [] => True
  | (_, v) :: ms => v.Natural ∧ NaturalMembers ms

end

mutual

/-- What is written for a value is one of its spellings. -/
theorem Value.spelled_write : ∀ {v : Value}, v.Natural → Spelled v.write v
  | .null, _ => .null
  | .bool true, _ => .true
  | .bool false, _ => .false
  | .number n, h => by
      obtain ⟨k, -, rfl⟩ := h
      exact .number (Number.spelled_ofNat k)
  | .text s, _ => .text (textSpelled_writeText s)
  | .array [], _ => .emptyArray blank_nil
  | .array (_ :: _), h => .array (elements_write (List.cons_ne_nil _ _) h)
  | .object [], _ => .emptyObject blank_nil
  | .object (_ :: _), h => .object (members_write (List.cons_ne_nil _ _) h)

theorem elements_write : ∀ {vs : List Value}, vs ≠ [] → NaturalItems vs →
    Elements (writeItems vs) vs
  | [], hne, _ => absurd rfl hne
  | [_], _, h => .last (Value.spelled_write h.1).element
  | _ :: _ :: _, _, h =>
      .more (Value.spelled_write h.1).element (elements_write (List.cons_ne_nil _ _) h.2)

theorem members_write : ∀ {ms : List (String × Value)}, ms ≠ [] → NaturalMembers ms →
    Members (writeMembers ms) ms
  | [], hne, _ => absurd rfl hne
  | [(k, _)], _, h => .last ((Value.spelled_write h.1).member (textSpelled_writeText k))
  | (k, _) :: _ :: _, _, h =>
      .more ((Value.spelled_write h.1).member (textSpelled_writeText k))
        (members_write (List.cons_ne_nil _ _) h.2)

end

mutual

theorem Value.isFinite_of_natural : ∀ {v : Value}, v.Natural → v.isFinite = true
  | .null, _ => rfl
  | .bool _, _ => rfl
  | .number n, h => by
      obtain ⟨k, hk, rfl⟩ := h
      exact Number.isFinite_ofNat hk
  | .text _, _ => rfl
  | .array _, h => finiteItems_of_natural h
  | .object _, h => finiteMembers_of_natural h

theorem finiteItems_of_natural : ∀ {vs : List Value}, NaturalItems vs → finiteItems vs = true
  | [], _ => rfl
  | _ :: _, h => by
      rw [finiteItems, Value.isFinite_of_natural h.1, finiteItems_of_natural h.2, Bool.and_self]

theorem finiteMembers_of_natural : ∀ {ms : List (String × Value)}, NaturalMembers ms →
    finiteMembers ms = true
  | [], _ => rfl
  | (_, _) :: _, h => by
      rw [finiteMembers, Value.isFinite_of_natural h.1, finiteMembers_of_natural h.2,
        Bool.and_self]

end

/-- A value is read back from its characters. -/
theorem Value.read_write {v : Value} (hn : v.Natural) (hd : v.depth ≤ Reader.maxDepth) :
    Value.read v.write = some v := by
  rw [(Value.spelled_write hn).element.read, if_pos ⟨Value.isFinite_of_natural hn, hd⟩]

/-- A value is read back from the octets of its characters. -/
theorem Value.readBytes_write {v : Value} (hn : v.Natural) (hd : v.depth ≤ Reader.maxDepth) :
    Value.readBytes (String.ofList v.write).toUTF8 = some v := by
  rw [Value.readBytes, fromUTF8?_toUTF8, Option.bind_some, String.toList_ofList,
    Value.read_write hn hd]

end Values

end Json
end QuoteBridge
