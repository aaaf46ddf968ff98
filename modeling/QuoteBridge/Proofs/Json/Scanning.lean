import QuoteBridge.Json.Token
import QuoteBridge.Proofs.Json.Grammar

/-!
# Tokens of a spelled value

The token machine reads every spelling of a value piece by piece.

**Input.**  A spelling of a value, in front of any text that may stand behind a value.

**Results.**
* `Scan.Reads.chars`: the characters of a text are read back from their spellings.
* `Scan.exists_reads_number`: what the machine holds behind a number.
* `Spelled.yields`: a spelling gives out the tokens of its value, and is refused just if the value
  holds a number that is not finite.
-/

namespace QuoteBridge
namespace Json

section Runs

namespace Scan

/-- Some characters give out tokens and lead from one state to another. -/
def Reads (s : Scan) (cs : List Char) (ts : List Token) (s' : Scan) : Prop :=
  ∀ rest, tokens? s (cs ++ rest) = (tokens? s' rest).map (ts ++ ·)

/-- The characters that may stand behind a value. -/
def closers : List Char := blanks ++ [',', ']', '\x7d']

/-- The text may stand behind a value. -/
def Closing (cs : List Char) : Prop := ∀ c ∈ cs.head?, c ∈ closers

/-- Some characters between tokens give out tokens, whatever stands behind them; or they are
refused. -/
def Yields (accepted : Bool) (cs : List Char) (ts : List Token) : Prop :=
  ∀ rest, Closing rest →
    tokens? .between (cs ++ rest) =
      if accepted then (tokens? .between rest).map (ts ++ ·) else none

theorem Reads.refl (s : Scan) : Reads s [] [] s := by
  intro rest
  cases h : tokens? s rest <;> simp [h]

theorem Reads.append {s s' s'' : Scan} {cs cs' : List Char} {ts ts' : List Token}
    (h : Reads s cs ts s') (h' : Reads s' cs' ts' s'') :
    Reads s (cs ++ cs') (ts ++ ts') s'' := by
  intro rest
  rw [List.append_assoc, h, h', Option.map_map]
  congr 1
  funext us
  simp

theorem Reads.single {s t : Scan} {c : Char} {ts : List Token}
    (h : s.step? c = some (ts, t)) : Reads s [c] ts t := by
  intro rest
  simp [tokens?, h]

/-- A character that ends no token. -/
theorem Reads.skip {s t u : Scan} {c : Char} {cs : List Char} {ts : List Token}
    (h : s.step? c = some ([], t)) (h' : Reads t cs ts u) : Reads s (c :: cs) ts u :=
  (Reads.single h).append h'

/-- A word is read to its end. -/
theorem Reads.word (token : Token) (c : Char) (cs : List Char) :
    Reads (.word (c :: cs) token) (c :: cs) [token] .between := by
  induction cs generalizing c with
  | nil => exact .single (by simp [step?])
  | cons d cs ih => exact .skip (t := .word (d :: cs) token) (by simp [step?]) (ih d)

theorem Reads.yields {cs : List Char} {ts : List Token} (h : Reads .between cs ts .between) :
    Yields true cs ts :=
  fun rest _ => h rest

/-- What is read in front of a value is read in front of its tokens. -/
theorem Reads.then {accepted : Bool} {cs cs' : List Char} {ts ts' : List Token}
    (h : Reads .between cs ts .between) (h' : Yields accepted cs' ts') :
    Yields accepted (cs ++ cs') (ts ++ ts') := by
  intro rest hr
  rw [List.append_assoc, h, h' rest hr]
  cases accepted with
  | false => rfl
  | true =>
      cases tokens? .between rest <;> simp

/-- Behind a value stands something that closes it. -/
theorem Yields.append {accepted accepted' : Bool} {cs cs' : List Char} {ts ts' : List Token}
    (h : Yields accepted cs ts) (hc : ∀ rest, Closing rest → Closing (cs' ++ rest))
    (h' : Yields accepted' cs' ts') : Yields (accepted && accepted') (cs ++ cs') (ts ++ ts') := by
  intro rest hr
  rw [List.append_assoc, h _ (hc rest hr), h' rest hr]
  cases accepted with
  | false => rfl
  | true =>
      cases accepted' with
      | false => rfl
      | true => cases tokens? .between rest <;> simp

theorem closing_cons {c : Char} (h : c ∈ closers) (cs : List Char) : Closing (c :: cs) := by
  simpa [Closing] using h

theorem closing_blank {b rest : List Char} (hb : Blank b) (hr : Closing rest) :
    Closing (b ++ rest) := by
  cases b with
  | nil => exact hr
  | cons c cs => exact closing_cons (List.mem_append_left _ (hb c List.mem_cons_self)) _

theorem Reads.blank {b : List Char} (hb : Blank b) : Reads .between b [] .between := by
  have hstart : ∀ c ∈ blanks, step? .between c = some ([], .between) := by
    simp [blanks, step?, start?, isSpace]
  induction b with
  | nil => exact .refl _
  | cons c cs ih =>
      obtain ⟨hc, hcs⟩ := List.forall_mem_cons.mp hb
      exact .skip (hstart c hc) (ih hcs)

end Scan

end Runs

section Texts

namespace Scan

variable {acc : List Char} {s : Scan}

theorem hexDigit?_of_isHex {c : Char} {d : Nat} (h : IsHex c d) : Text.hexDigit? c = some d := by
  have hdigit : ∀ d < 16, Text.hexDigit? (Nat.digitChar d) = some d ∧
      Text.hexDigit? (Nat.digitChar d).toUpper = some d := by decide
  obtain ⟨hd, rfl | rfl⟩ := h
  · exact (hdigit d hd).1
  · exact (hdigit d hd).2

/-- Four digits are read one by one, in either half of a pair. -/
theorem Reads.fourHex {ds : List Char} {n : Nat} {f : Nat → Nat → Scan} (h : FourHex ds n)
    (hnext : ∀ {count v c d}, IsHex c d → count ≠ 3 →
      step? (f count v) c = some ([], f (count + 1) (v * 16 + d)))
    (hlast : ∀ {v c d}, IsHex c d → v * 16 + d = n → step? (f 3 v) c = some ([], s)) :
    Reads (f 0 0) ds [] s := by
  obtain ⟨h₃, h₂, h₁, h₀⟩ := h
  exact .skip (hnext h₃ (by decide)) (.skip (hnext h₂ (by decide)) (.skip (hnext h₁ (by decide))
    (.single (hlast h₀ (by omega)))))

theorem Reads.unit {ds : List Char} {n : Nat} (h : FourHex ds n)
    (hend : afterUnit? acc n = some ([], s)) : Reads (.unit acc 0 0) ds [] s :=
  .fourHex h (fun hc hcount => by simp only [step?, hexDigit?_of_isHex hc, hcount, if_false])
    (fun hc hn => by simp only [step?, hexDigit?_of_isHex hc, if_true, hn, hend])

theorem Reads.pairUnit {ds : List Char} {n high : Nat} (h : FourHex ds n)
    (hend : afterPair? acc high n = some ([], s)) : Reads (.pairUnit acc high 0 0) ds [] s :=
  .fourHex h (fun hc hcount => by simp only [step?, hexDigit?_of_isHex hc, hcount, if_false])
    (fun hc hn => by simp only [step?, hexDigit?_of_isHex hc, if_true, hn, hend])

theorem afterUnit?_toNat (acc : List Char) {c : Char} :
    afterUnit? acc c.toNat = some ([], .text (c :: acc)) := by
  have hvalid : c.toNat < 0xD800 ∨ 0xDFFF < c.toNat ∧ c.toNat < 0x110000 := c.valid
  have hhigh : ¬ (0xD800 ≤ c.toNat ∧ c.toNat ≤ 0xDBFF) := by omega
  have hlow : ¬ (0xDC00 ≤ c.toNat ∧ c.toNat ≤ 0xDFFF) := by omega
  simp only [afterUnit?, hhigh, hlow, if_false, Char.ofNat_toNat]

/-- A character is read back from its surrogates. -/
theorem afterPair?_toNat (acc : List Char) {c : Char} (hc : 0x10000 ≤ c.toNat) :
    afterPair? acc (0xD800 + (c.toNat - 0x10000) / 0x400)
      (0xDC00 + (c.toNat - 0x10000) % 0x400) = some ([], .text (c :: acc)) := by
  have hlow : 0xDC00 ≤ 0xDC00 + (c.toNat - 0x10000) % 0x400 ∧
      0xDC00 + (c.toNat - 0x10000) % 0x400 ≤ 0xDFFF := by omega
  have hnumber : 0x10000 + (0xD800 + (c.toNat - 0x10000) / 0x400 - 0xD800) * 0x400 +
      (0xDC00 + (c.toNat - 0x10000) % 0x400 - 0xDC00) = c.toNat := by omega
  rw [afterPair?, if_pos hlow, hnumber, Char.ofNat_toNat]

/-- A character of a text is read back from any of its spellings. -/
theorem Reads.char {cs : List Char} {c : Char} (h : CharSpelled cs c) :
    Reads (.text acc) cs [] (.text (c :: acc)) := by
  cases h with
  | plain hlow hquote hback =>
      have hlow' : ¬ c < ' ' := Char.not_lt.mpr hlow
      exact .single (by simp only [step?, hquote, hback, hlow', if_false])
  | letter he =>
      have hletters : ∀ l ∈ letters, l.1 ≠ 'u' ∧ escaped? l.1 = some l.2 := by
        simp [letters, escaped?]
      obtain ⟨hu, hc⟩ := hletters _ he
      exact .skip (t := .escape acc) rfl (.single (by simp [step?, hu, hc]))
  | unit hds =>
      exact .skip (t := .escape acc) rfl (.skip (t := .unit acc 0 0) rfl
        (.unit hds (afterUnit?_toNat acc)))
  | @pair hs ls _ hc hh hl =>
      have hvalid : c.toNat < 0xD800 ∨ 0xDFFF < c.toNat ∧ c.toNat < 0x110000 := c.valid
      have hhigh : 0xD800 ≤ 0xD800 + (c.toNat - 0x10000) / 0x400 ∧
          0xD800 + (c.toNat - 0x10000) / 0x400 ≤ 0xDBFF := by omega
      have hfirst : Reads (.unit acc 0 0) hs [] (.pairMark acc _) := .unit hh (if_pos hhigh)
      have hsecond := Reads.pairUnit hl (afterPair?_toNat acc hc)
      exact .skip (t := .escape acc) rfl (.skip (t := .unit acc 0 0) rfl
        (hfirst.append (.skip rfl (.skip rfl hsecond))))

theorem Reads.chars {cs s : List Char} (h : CharsSpelled cs s) :
    Reads (.text acc) cs [] (.text (s.reverse ++ acc)) := by
  induction h generalizing acc with
  | nil => exact .refl _
  | @cons _ _ c _ hc _ ih => simpa using (Reads.char hc).append (@ih (c :: acc))

/-- A text is read back from any of its spellings. -/
theorem Reads.text {cs : List Char} {s : String} (h : TextSpelled cs s) :
    Reads .between cs [.text s] .between := by
  obtain ⟨hs⟩ := h
  have hend : Reads (.text (s.toList.reverse ++ [])) ['"'] [.text s] .between :=
    .single (by simp [step?])
  exact .skip (t := .text []) rfl ((Reads.chars hs).append hend)

end Scan

end Texts

section Numbers

/-- The figure holds a number, and what stands behind a value does not go on with it. -/
structure Figure.Holds (f : Figure) (n : Number) : Prop where
  ends : ∀ c ∈ Scan.closers, f.extend? c = none
  finish : f.finish? = (some n).filter Number.isFinite

/-- Behind these parts of a number its exponent may stand. -/
def Stage.Leaves (st : Stage) : Prop := st = .zero ∨ st = .whole ∨ st = .fraction

theorem digit?_of_mem_closers : ∀ c ∈ Scan.closers, Text.digit? 10 c = none := by
  simp [Scan.closers, blanks, Text.digit?, Text.hexDigit?, Char.le_def]

theorem digit?_digitChar : ∀ d < 10, Text.digit? 10 (Nat.digitChar d) = some d := by
  decide

namespace Figure

variable {f : Figure}

theorem extend?_of_leaves {c : Char} (h : f.stage.Leaves) (hc : Text.digit? 10 c = none) :
    f.extend? c = f.leave? c := by
  rcases h with h | h | h <;> simp only [extend?, h, hc]

theorem holds_mantissa (h : f.stage.Leaves) : f.Holds f.mantissa where
  ends := by
    intro c hc
    have hclosers : ∀ c ∈ Scan.closers, c ≠ '.' ∧ c ≠ 'e' ∧ c ≠ 'E' := by
      simp [Scan.closers, blanks]
    obtain ⟨hpoint, hsmall, hcapital⟩ := hclosers c hc
    rw [extend?_of_leaves h (digit?_of_mem_closers c hc)]
    simp only [leave?, hpoint, hsmall, hcapital, false_and, or_self, if_false]
  finish := by
    rcases h with h | h | h <;> simp only [finish?, h]

theorem holds_exponent (h : f.stage = .exponent) :
    f.Holds { f.mantissa with
      exponent := some (if f.lowered then -(f.exponent : Int) else f.exponent) } where
  ends := fun c hc => by simp only [extend?, h, digit?_of_mem_closers c hc]
  finish := by simp only [finish?, h]

end Figure

namespace Scan

variable {minus lowered : Bool} {ws fs ds : List Nat} {st : Stage}

/-- Digits are read one by one, in any part of a number. -/
theorem Reads.digits {σ : Type} {f : σ → Figure} {next : σ → Nat → σ}
    (h : ∀ x, ∀ d < 10, (f x).extend? (Nat.digitChar d) = some (f (next x d))) (x : σ)
    (hds : Digits ds) :
    Reads (.figure (f x)) (ds.map Nat.digitChar) [] (.figure (f (ds.foldl next x))) := by
  induction ds generalizing x with
  | nil => exact .refl _
  | cons d ds ih =>
      obtain ⟨hd, hds⟩ := List.forall_mem_cons.mp hds
      exact .skip (by simp only [step?, h x d hd]) (ih (next x d) hds)

/-- The digits before the point, behind the sign. -/
theorem Reads.whole (minus : Bool) (h : Whole ws) : ∃ st, (st = .zero ∨ st = .whole) ∧
    Reads .between ((if minus then ['-'] else []) ++ ws.map Nat.digitChar) []
      (.figure ⟨st, minus, ws.reverse, [], false, 0⟩) := by
  have hfirst : ∀ d < 10, Reads .between ((if minus then ['-'] else []) ++ [Nat.digitChar d]) []
      (.figure ⟨if d = 0 then .zero else .whole, minus, [d], [], false, 0⟩) := by
    intro d hd
    have hplain : ∀ d < 10, step? .between (Nat.digitChar d) =
        some ([], .figure ⟨if d = 0 then .zero else .whole, false, [d], [], false, 0⟩) := by
      decide
    have hminus : ∀ d < 10, step? (.figure ⟨.minus, true, [], [], false, 0⟩) (Nat.digitChar d) =
        some ([], .figure ⟨if d = 0 then .zero else .whole, true, [d], [], false, 0⟩) := by
      decide
    cases minus with
    | false => exact .single (hplain d hd)
    | true => exact .skip rfl (.single (hminus d hd))
  cases h with
  | zero => exact ⟨.zero, Or.inl rfl, hfirst 0 (by decide)⟩
  | @digits d ds hne h =>
      obtain ⟨hd, hds⟩ := List.forall_mem_cons.mp h
      have hnext : ∀ acc, ∀ d < 10,
          (⟨.whole, minus, acc, [], false, 0⟩ : Figure).extend? (Nat.digitChar d) =
            some ⟨.whole, minus, d :: acc, [], false, 0⟩ :=
        fun acc d hd => by simp only [Figure.extend?, digit?_digitChar d hd]
      have hrest := Reads.digits hnext [d] hds
      have hread := (hfirst d hd).append (by rwa [if_neg hne])
      exact ⟨.whole, Or.inr rfl, by simpa using hread⟩

/-- The point and the digits behind it. -/
theorem Reads.fraction (minus : Bool) (ws : List Nat) {cs : List Char} (h : Fraction cs fs)
    (hst : st = .zero ∨ st = .whole) :
    ∃ st', st'.Leaves ∧ Reads (.figure ⟨st, minus, ws, [], false, 0⟩) cs []
      (.figure ⟨st', minus, ws, fs.reverse, false, 0⟩) := by
  have hleaves : st.Leaves := by
    rcases hst with rfl | rfl
    · exact Or.inl rfl
    · exact Or.inr (Or.inl rfl)
  cases h with
  | none => exact ⟨st, hleaves, .refl _⟩
  | digits hne h =>
      obtain ⟨d, ds, rfl⟩ := List.exists_cons_of_ne_nil hne
      obtain ⟨hd, hds⟩ := List.forall_mem_cons.mp h
      have hpoint : step? (.figure ⟨st, minus, ws, [], false, 0⟩) '.' =
          some ([], .figure ⟨.point, minus, ws, [], false, 0⟩) := by
        rcases hst with rfl | rfl <;> rfl
      have hfirst : step? (.figure ⟨.point, minus, ws, [], false, 0⟩) (Nat.digitChar d) =
          some ([], .figure ⟨.fraction, minus, ws, [d], false, 0⟩) := by
        simp only [step?, Figure.extend?, digit?_digitChar d hd]
      have hnext : ∀ acc, ∀ d < 10,
          (⟨.fraction, minus, ws, acc, false, 0⟩ : Figure).extend? (Nat.digitChar d) =
            some ⟨.fraction, minus, ws, d :: acc, false, 0⟩ :=
        fun acc d hd => by simp only [Figure.extend?, digit?_digitChar d hd]
      have hread := Reads.skip hpoint (.skip hfirst (.digits hnext [d] hds))
      exact ⟨.fraction, Or.inr (Or.inr rfl), by simpa using hread⟩

/-- The digits of an exponent, behind its sign or without one. -/
theorem Reads.exponent (hst : st = .mark ∨ st = .sign) (hne : ds ≠ []) (h : Digits ds) :
    Reads (.figure ⟨st, minus, ws, fs, lowered, 0⟩) (ds.map Nat.digitChar) []
      (.figure ⟨.exponent, minus, ws, fs, lowered, Number.valueFrom 0 ds⟩) := by
  obtain ⟨d, ds, rfl⟩ := List.exists_cons_of_ne_nil hne
  obtain ⟨hd, hds⟩ := List.forall_mem_cons.mp h
  have hfirst : step? (.figure ⟨st, minus, ws, fs, lowered, 0⟩) (Nat.digitChar d) =
      some ([], .figure ⟨.exponent, minus, ws, fs, lowered, 0 * 10 + d⟩) := by
    rcases hst with rfl | rfl <;>
      simp only [step?, Figure.extend?, digit?_digitChar d hd, Nat.zero_mul, Nat.zero_add]
  have hnext : ∀ n, ∀ d < 10,
      (⟨.exponent, minus, ws, fs, lowered, n⟩ : Figure).extend? (Nat.digitChar d) =
        some ⟨.exponent, minus, ws, fs, lowered, n * 10 + d⟩ :=
    fun n d hd => by simp only [Figure.extend?, digit?_digitChar d hd]
  exact .skip hfirst (.digits hnext (0 * 10 + d) hds)

/-- The exponent, if there is one, ends the number. -/
theorem exists_reads_exponent (minus : Bool) (ws fs : List Nat) {cs : List Char} {e : Option Int}
    (h : Exponent cs e) (hst : st.Leaves) :
    ∃ f : Figure, f.Holds ⟨minus, ws.reverse, fs.reverse, e⟩ ∧
      Reads (.figure ⟨st, minus, ws, fs, false, 0⟩) cs [] (.figure f) := by
  cases h with
  | none => exact ⟨_, Figure.holds_mantissa hst, .refl _⟩
  | @digits mark sign ds hm hs hne h =>
      have hmark : step? (.figure ⟨st, minus, ws, fs, false, 0⟩) mark =
          some ([], .figure ⟨.mark, minus, ws, fs, false, 0⟩) := by
        have hplain : Text.digit? 10 mark = none := by rcases hm with rfl | rfl <;> decide
        have hextend : Figure.extend? ⟨st, minus, ws, fs, false, 0⟩ mark =
            some ⟨.mark, minus, ws, fs, false, 0⟩ := by
          rw [Figure.extend?_of_leaves hst hplain]
          rcases hm with rfl | rfl <;> rfl
        simp only [step?, hextend]
      rcases hs with rfl | rfl | rfl
      · exact ⟨_, Figure.holds_exponent rfl, .skip hmark (.exponent (Or.inl rfl) hne h)⟩
      · exact ⟨_, Figure.holds_exponent rfl,
          .skip hmark (.skip rfl (.exponent (Or.inr rfl) hne h))⟩
      · exact ⟨_, Figure.holds_exponent rfl,
          .skip hmark (.skip rfl (.exponent (Or.inr rfl) hne h))⟩

theorem exists_reads_number {cs : List Char} {n : Number} (h : NumberSpelled cs n) :
    ∃ f : Figure, f.Holds n ∧ Reads .between cs [] (.figure f) := by
  obtain @⟨minus, ws, fs, e, _, _, hw, hf, he⟩ := h
  obtain ⟨st, hst, hwhole⟩ := Reads.whole minus hw
  obtain ⟨st', hst', hfraction⟩ := Reads.fraction minus ws.reverse hf hst
  obtain ⟨f, hholds, hexponent⟩ := exists_reads_exponent minus ws.reverse fs.reverse he hst'
  simp only [List.reverse_reverse] at hholds
  exact ⟨f, hholds, (hwhole.append hfraction).append hexponent⟩

/-- A number is read back from any of its spellings, if it is finite. -/
theorem yields_number {cs : List Char} {n : Number} (h : NumberSpelled cs n) :
    Yields n.isFinite cs [.number n] := by
  obtain ⟨f, ⟨hends, hfinish⟩, hread⟩ := exists_reads_number h
  intro rest hr
  rw [hread rest]
  cases rest with
  | nil => cases hn : n.isFinite <;> simp [tokens?, finish?, hfinish, hn]
  | cons c cs =>
      have hc := hends c (hr c rfl)
      cases hn : n.isFinite with
      | false =>
          have hnone : f.finish? = none := by rw [hfinish, Option.filter_some, hn]; rfl
          simp [tokens?, step?, hc, hnone]
      | true =>
          simp only [tokens?, step?, hc, hfinish, Option.filter_some, hn, if_true]
          cases start? c with
          | none => rfl
          | some r => cases htail : tokens? r.2 cs <;> simp [htail]

end Scan

end Numbers

section Values

mutual

/-- The tokens of a value. -/
def Value.tokens : Value → List Token
  | .null => [.null]
  | .bool b => [.bool b]
  | .number n => [.number n]
  | .text s => [.text s]
  | .array items => .openArray :: (itemTokens items ++ [.closeArray])
  | .object members => .openObject :: (memberTokens members ++ [.closeObject])

/-- The tokens of the items of an array. -/
def itemTokens : List Value → List Token
  | [] => []
  | [v] => v.tokens
  | v :: vs => v.tokens ++ .comma :: itemTokens vs

/-- The tokens of the members of an object. -/
def memberTokens : List (String × Value) → List Token
  | [] => []
  | [(k, v)] => .text k :: .colon :: v.tokens
  | (k, v) :: ms => .text k :: .colon :: (v.tokens ++ .comma :: memberTokens ms)

end

mutual

/-- All numbers of a value are finite. -/
def Value.isFinite : Value → Bool
  | .number n => n.isFinite
  | .array items => finiteItems items
  | .object members => finiteMembers members
  | _ => true

/-- All numbers of the items of an array are finite. -/
def finiteItems : List Value → Bool
  | [] => true
  | v :: vs => v.isFinite && finiteItems vs

/-- All numbers of the members of an object are finite. -/
def finiteMembers : List (String × Value) → Bool
  | [] => true
  | (_, v) :: ms => v.isFinite && finiteMembers ms

end

namespace Scan

variable {accepted accepted' : Bool} {cs cs' : List Char} {ts ts' : List Token}

theorem Yields.comma (h : Yields accepted cs ts) (h' : Yields accepted' cs' ts') :
    Yields (accepted && accepted') (cs ++ ',' :: cs') (ts ++ .comma :: ts') := by
  have hcomma : Reads .between [','] [.comma] .between := .single rfl
  exact h.append (fun _ _ => closing_cons (by decide) _) (hcomma.then h')

theorem Yields.bracket {c c' : Char} {t t' : Token} (hc : start? c = some ([t], .between))
    (hc' : start? c' = some ([t'], .between)) (hend : c' ∈ closers) (h : Yields accepted cs ts) :
    Yields accepted (c :: (cs ++ [c'])) (t :: (ts ++ [t'])) := by
  have hopen : Reads .between [c] [t] .between := .single hc
  have hclose : Reads .between [c'] [t'] .between := .single hc'
  have h' := hopen.then (h.append (fun _ _ => closing_cons hend _) hclose.yields)
  rwa [Bool.and_true] at h'

end Scan

open Scan

mutual

/-- A spelling gives out the tokens of its value, if the value is finite. -/
theorem Spelled.yields : ∀ {cs v}, Spelled cs v → Yields v.isFinite cs v.tokens
  | _, _, .null => (Reads.skip (t := .word ['u', 'l', 'l'] .null) rfl (.word _ _ _)).yields
  | _, _, .true =>
      (Reads.skip (t := .word ['r', 'u', 'e'] (.bool true)) rfl (.word _ _ _)).yields
  | _, _, .false =>
      (Reads.skip (t := .word ['a', 'l', 's', 'e'] (.bool false)) rfl (.word _ _ _)).yields
  | _, _, .number h => yields_number h
  | _, _, .text h => (Reads.text h).yields
  | _, _, .emptyArray h => (Reads.blank h).yields.bracket rfl rfl (by decide)
  | _, _, .array h => h.yields.bracket rfl rfl (by decide)
  | _, _, .emptyObject h => (Reads.blank h).yields.bracket rfl rfl (by decide)
  | _, _, .object h => h.yields.bracket rfl rfl (by decide)

theorem Element.yields : ∀ {cs v}, Element cs v → Yields v.isFinite cs v.tokens
  | _, _, .mk hb h hb' => by
      have hafter := h.yields.append (fun _ hr => closing_blank hb' hr) (Reads.blank hb').yields
      simpa using (Reads.blank hb).then hafter

theorem Elements.yields : ∀ {cs vs}, Elements cs vs → Yields (finiteItems vs) cs (itemTokens vs)
  | _, _, .last h => by simpa [finiteItems, itemTokens] using h.yields
  | _, _, .more h hs => h.yields.comma hs.yields

theorem Member.yields : ∀ {cs m}, Member cs m →
    Yields m.2.isFinite cs (.text m.1 :: .colon :: m.2.tokens)
  | _, _, .mk hb hk hb' h => by
      have hcolon : Reads .between [':'] [.colon] .between := .single rfl
      exact (Reads.blank hb).then ((Reads.text hk).then ((Reads.blank hb').then
        (hcolon.then h.yields)))

theorem Members.yields : ∀ {cs ms}, Members cs ms →
    Yields (finiteMembers ms) cs (memberTokens ms)
  | _, _, .last h => by simpa [finiteMembers, memberTokens] using h.yields
  | _, _, .more h hs => by
      simpa [finiteMembers, memberTokens] using h.yields.comma hs.yields

end

end Values

end Json
end QuoteBridge
