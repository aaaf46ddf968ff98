import QuoteBridge.Json.Value

/-!
# How JSON values are spelled

A value has many spellings: blanks may stand around its parts, and the characters of a text may be
escaped in several ways.  The rules stand here by themselves; no machine reads or writes them.

**Blanks.**  Spaces, tabs, line feeds and carriage returns stand around values and keys, and
nowhere else.

**Texts.**  A character stands for itself unless it is a quote, a backslash or below U+0020.  Any
character up to U+FFFF may be written with its number as four hexadecimal digits, and any other
one with the numbers of its two surrogates.

**Numbers.**  A number is spelled by its digits, without leading zeros; where it has a point or an
exponent, digits follow.
-/

namespace QuoteBridge
namespace Json

section Blanks

/-- The characters that may stand between the parts of a value. -/
def blanks : List Char := [' ', '\t', '\n', '\r']

def Blank (cs : List Char) : Prop := ∀ c ∈ cs, c ∈ blanks

instance (cs : List Char) : Decidable (Blank cs) :=
  List.decidableBAll (fun c => c ∈ blanks) cs

theorem blank_nil : Blank [] := List.forall_mem_nil _

end Blanks

section Texts

/-- A hexadecimal digit, small or capital. -/
def IsHex (c : Char) (d : Nat) : Prop :=
  d < 16 ∧ (c = Nat.digitChar d ∨ c = (Nat.digitChar d).toUpper)

instance (c : Char) (d : Nat) : Decidable (IsHex c d) :=
  inferInstanceAs (Decidable (d < 16 ∧ (c = Nat.digitChar d ∨ c = (Nat.digitChar d).toUpper)))

/-- Four hexadecimal digits of a number. -/
inductive FourHex : List Char → Nat → Prop
  | mk {c₃ c₂ c₁ c₀ : Char} {d₃ d₂ d₁ d₀ : Nat} (h₃ : IsHex c₃ d₃) (h₂ : IsHex c₂ d₂)
      (h₁ : IsHex c₁ d₁) (h₀ : IsHex c₀ d₀) :
      FourHex [c₃, c₂, c₁, c₀] (((d₃ * 16 + d₂) * 16 + d₁) * 16 + d₀)

/-- The letters that follow a backslash, with the characters that they stand for. -/
def letters : List (Char × Char) :=
  [('"', '"'), ('\\', '\\'), ('/', '/'), ('b', '\x08'), ('f', '\x0c'), ('n', '\n'), ('r', '\r'),
   ('t', '\t')]

/-- The spellings of a character in a text. -/
inductive CharSpelled : List Char → Char → Prop
  | plain {c : Char} (hlow : ' ' ≤ c) (hquote : c ≠ '"') (hback : c ≠ '\\') : CharSpelled [c] c
  | letter {e c : Char} (h : (e, c) ∈ letters) : CharSpelled ['\\', e] c
  | unit {ds : List Char} {c : Char} (h : FourHex ds c.toNat) : CharSpelled ('\\' :: 'u' :: ds) c
  | pair {hs ls : List Char} {c : Char} (hc : 0x10000 ≤ c.toNat)
      (hh : FourHex hs (0xD800 + (c.toNat - 0x10000) / 0x400))
      (hl : FourHex ls (0xDC00 + (c.toNat - 0x10000) % 0x400)) :
      CharSpelled ('\\' :: 'u' :: (hs ++ '\\' :: 'u' :: ls)) c

/-- The spellings of characters in a row. -/
inductive CharsSpelled : List Char → List Char → Prop
  | nil : CharsSpelled [] []
  | cons {cs cs' : List Char} {c : Char} {s : List Char} (h : CharSpelled cs c)
      (hs : CharsSpelled cs' s) : CharsSpelled (cs ++ cs') (c :: s)

/-- The spellings of a text, between quotes. -/
inductive TextSpelled : List Char → String → Prop
  | mk {cs : List Char} {s : String} (h : CharsSpelled cs s.toList) :
      TextSpelled ('"' :: (cs ++ ['"'])) s

end Texts

section Numbers

/-- Decimal digits. -/
def Digits (ds : List Nat) : Prop := ∀ d ∈ ds, d < 10

instance (ds : List Nat) : Decidable (Digits ds) :=
  List.decidableBAll (fun d => d < 10) ds

/-- The digits before the point: a zero in front stands alone. -/
inductive Whole : List Nat → Prop
  | zero : Whole [0]
  | digits {d : Nat} {ds : List Nat} (hd : d ≠ 0) (h : Digits (d :: ds)) : Whole (d :: ds)

/-- The point and the digits behind it, if there are any. -/
inductive Fraction : List Char → List Nat → Prop
  | none : Fraction [] []
  | digits {ds : List Nat} (hne : ds ≠ []) (h : Digits ds) :
      Fraction ('.' :: ds.map Nat.digitChar) ds

/-- The exponent, if there is one. -/
inductive Exponent : List Char → Option Int → Prop
  | none : Exponent [] none
  | digits {mark : Char} {sign : List Char} {ds : List Nat} (hm : mark = 'e' ∨ mark = 'E')
      (hs : sign = [] ∨ sign = ['+'] ∨ sign = ['-']) (hne : ds ≠ []) (h : Digits ds) :
      Exponent (mark :: (sign ++ ds.map Nat.digitChar))
        (some (if sign = ['-'] then -(Number.valueFrom 0 ds : Int) else Number.valueFrom 0 ds))

/-- The spellings of a number. -/
inductive NumberSpelled : List Char → Number → Prop
  | mk {minus : Bool} {whole fraction : List Nat} {exponent : Option Int} {fs es : List Char}
      (hw : Whole whole) (hf : Fraction fs fraction) (he : Exponent es exponent) :
      NumberSpelled ((if minus then ['-'] else []) ++ whole.map Nat.digitChar ++ fs ++ es)
        ⟨minus, whole, fraction, exponent⟩

end Numbers

section Values

mutual

/-- The spellings of a value. -/
inductive Spelled : List Char → Value → Prop
  | null : Spelled ['n', 'u', 'l', 'l'] .null
  | true : Spelled ['t', 'r', 'u', 'e'] (.bool true)
  | false : Spelled ['f', 'a', 'l', 's', 'e'] (.bool false)
  | number {cs : List Char} {n : Number} (h : NumberSpelled cs n) : Spelled cs (.number n)
  | text {cs : List Char} {s : String} (h : TextSpelled cs s) : Spelled cs (.text s)
  | emptyArray {b : List Char} (h : Blank b) : Spelled ('[' :: (b ++ [']'])) (.array [])
  | array {cs : List Char} {vs : List Value} (h : Elements cs vs) :
      Spelled ('[' :: (cs ++ [']'])) (.array vs)
  | emptyObject {b : List Char} (h : Blank b) : Spelled ('\x7b' :: (b ++ ['\x7d'])) (.object [])
  | object {cs : List Char} {ms : List (String × Value)} (h : Members cs ms) :
      Spelled ('\x7b' :: (cs ++ ['\x7d'])) (.object ms)

/-- A value with blanks around it. -/
inductive Element : List Char → Value → Prop
  | mk {b cs b' : List Char} {v : Value} (hb : Blank b) (h : Spelled cs v) (hb' : Blank b') :
      Element (b ++ (cs ++ b')) v

/-- The items of an array. -/
inductive Elements : List Char → List Value → Prop
  | last {cs : List Char} {v : Value} (h : Element cs v) : Elements cs [v]
  | more {cs cs' : List Char} {v v' : Value} {vs : List Value} (h : Element cs v)
      (hs : Elements cs' (v' :: vs)) : Elements (cs ++ ',' :: cs') (v :: v' :: vs)

/-- A key and its value. -/
inductive Member : List Char → String × Value → Prop
  | mk {b ks b' cs : List Char} {k : String} {v : Value} (hb : Blank b) (hk : TextSpelled ks k)
      (hb' : Blank b') (h : Element cs v) : Member (b ++ (ks ++ (b' ++ ':' :: cs))) (k, v)

/-- The members of an object. -/
inductive Members : List Char → List (String × Value) → Prop
  | last {cs : List Char} {m : String × Value} (h : Member cs m) : Members cs [m]
  | more {cs cs' : List Char} {m m' : String × Value} {ms : List (String × Value)}
      (h : Member cs m) (hs : Members cs' (m' :: ms)) :
      Members (cs ++ ',' :: cs') (m :: m' :: ms)

end

/-- No blanks need to stand around a value. -/
theorem Spelled.element {cs : List Char} {v : Value} (h : Spelled cs v) : Element cs v := by
  simpa using Element.mk blank_nil h blank_nil

theorem Spelled.member {ks cs : List Char} {k : String} {v : Value} (h : Spelled cs v)
    (hk : TextSpelled ks k) : Member (ks ++ ':' :: cs) (k, v) :=
  .mk blank_nil hk blank_nil h.element

end Values

end Json
end QuoteBridge
