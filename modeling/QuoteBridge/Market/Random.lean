/-!
# Random draws

Draws are made from a source of random words.  The market uses ChaCha with twelve rounds, keyed by
a number through a linear congruential generator.

**Ranges of integers.**  A draw of `w` bits times the size of the range gives `2 w` bits: the high
half is the result, and the draw is repeated while the low half is above the zone in which every
result is equally likely.

**Ranges of reals.**  A draw gives a double between one and two from its upper 52 bits; less one
and scaled it falls into the range.  The scale is lowered until the largest draw stays inside.
-/

namespace QuoteBridge

/-- A source of random words with states of type `σ`. -/
structure WordSource (σ : Type) where
  next32 : σ → UInt32 × σ
  next64 : σ → UInt64 × σ

namespace WordSource

variable {σ : Type} (src : WordSource σ)

/-- Bound on the number of times a draw is repeated. -/
def retryLimit : Nat := 100000

/-- The largest low half that is accepted for a range of the given size, in words of `w` bits. -/
def zone (w size : Nat) : Nat := (size <<< (w - 1 - Nat.log2 size)) - 1

/-- Draws until the low half lies in the zone. -/
def drawBelow (next : σ → Nat × σ) (w size : Nat) : Nat → σ → Nat × σ
  | 0, s => (0, s)
  | fuel + 1, s =>
      let r := next s
      if r.1 * size % (1 <<< w) ≤ zone w size then ((r.1 * size) >>> w, r.2)
      else drawBelow next w size fuel r.2

/-- A draw from `low` to `high`, with words of 32 bits. -/
def range32 (low high : Nat) (s : σ) : Nat × σ :=
  let r := drawBelow (fun s => let r := src.next32 s; (r.1.toNat, r.2)) 32 (high - low + 1)
    retryLimit s
  (low + r.1, r.2)

/-- A draw from `low` to `high`, with words of 64 bits. -/
def range64 (low high : Nat) (s : σ) : Nat × σ :=
  let r := drawBelow (fun s => let r := src.next64 s; (r.1.toNat, r.2)) 64 (high - low + 1)
    retryLimit s
  (low + r.1, r.2)

/-- The largest double that a scaled draw is made from. -/
def unitMax : Float := 1.0 - Float.ofBits 0x3CB0000000000000

/-- Lowers a scale to the next smaller double while the largest draw is above `high`. -/
def lowerScale (low high : Float) : Nat → Float → Float
  | 0, scale => scale
  | fuel + 1, scale =>
      if scale * unitMax + low > high then lowerScale low high fuel (Float.ofBits (scale.toBits - 1))
      else scale

/-- The double between zero and one made from a word. -/
def unitOf (word : UInt64) : Float :=
  Float.ofBits (((1023 : UInt64) <<< 52) ||| (word >>> 12)) - 1.0

/-- A draw between two doubles. -/
def rangeReal (low high : Float) (s : σ) : Float × σ :=
  let r := src.next64 s
  (unitOf r.1 * lowerScale low high retryLimit ((high - low) / unitMax) + low, r.2)

end WordSource

/-- A ChaCha stream: its key, the number of the next block, and the words left of the last one. -/
structure ChaCha where
  key : List UInt32
  next : UInt64
  left : List UInt32
  deriving DecidableEq, Repr

namespace ChaCha

/-- The sixteen words of a block. -/
structure Block where
  a0 : UInt32
  a1 : UInt32
  a2 : UInt32
  a3 : UInt32
  b0 : UInt32
  b1 : UInt32
  b2 : UInt32
  b3 : UInt32
  c0 : UInt32
  c1 : UInt32
  c2 : UInt32
  c3 : UInt32
  d0 : UInt32
  d1 : UInt32
  d2 : UInt32
  d3 : UInt32

/-- Rotation to the left. -/
def rotate (x : UInt32) (n : UInt32) : UInt32 := (x <<< n) ||| (x >>> (32 - n))

/-- The quarter round. -/
def quarter (a b c d : UInt32) : UInt32 × UInt32 × UInt32 × UInt32 :=
  let a := a + b
  let d := rotate (d ^^^ a) 16
  let c := c + d
  let b := rotate (b ^^^ c) 12
  let a := a + b
  let d := rotate (d ^^^ a) 8
  let c := c + d
  let b := rotate (b ^^^ c) 7
  (a, b, c, d)

/-- A round over the columns and a round over the diagonals. -/
def doubleRound (x : Block) : Block :=
  let (a0, b0, c0, d0) := quarter x.a0 x.b0 x.c0 x.d0
  let (a1, b1, c1, d1) := quarter x.a1 x.b1 x.c1 x.d1
  let (a2, b2, c2, d2) := quarter x.a2 x.b2 x.c2 x.d2
  let (a3, b3, c3, d3) := quarter x.a3 x.b3 x.c3 x.d3
  let (a0, b1, c2, d3) := quarter a0 b1 c2 d3
  let (a1, b2, c3, d0) := quarter a1 b2 c3 d0
  let (a2, b3, c0, d1) := quarter a2 b3 c0 d1
  let (a3, b0, c1, d2) := quarter a3 b0 c1 d2
  ⟨a0, a1, a2, a3, b0, b1, b2, b3, c0, c1, c2, c3, d0, d1, d2, d3⟩

/-- Some double rounds. -/
def rounds : Nat → Block → Block
  | 0, x => x
  | n + 1, x => rounds n (doubleRound x)

/-- Adds two blocks word by word and lists the words. -/
def sum (x y : Block) : List UInt32 :=
  [x.a0 + y.a0, x.a1 + y.a1, x.a2 + y.a2, x.a3 + y.a3,
    x.b0 + y.b0, x.b1 + y.b1, x.b2 + y.b2, x.b3 + y.b3,
    x.c0 + y.c0, x.c1 + y.c1, x.c2 + y.c2, x.c3 + y.c3,
    x.d0 + y.d0, x.d1 + y.d1, x.d2 + y.d2, x.d3 + y.d3]

/-- The block with a given number before the rounds. -/
def seedBlock (key : List UInt32) (counter : UInt64) : Block :=
  ⟨0x61707865, 0x3320646e, 0x79622d32, 0x6b206574,
    key.getD 0 0, key.getD 1 0, key.getD 2 0, key.getD 3 0,
    key.getD 4 0, key.getD 5 0, key.getD 6 0, key.getD 7 0,
    counter.toUInt32, (counter >>> 32).toUInt32, 0, 0⟩

/-- The words of the block with a given number. -/
def block (key : List UInt32) (counter : UInt64) : List UInt32 :=
  sum (rounds 6 (seedBlock key counter)) (seedBlock key counter)

/-- The stream of a key. -/
def ofKey (key : List UInt32) : ChaCha := ⟨key, 0, []⟩

def next32 (s : ChaCha) : UInt32 × ChaCha :=
  match s.left with
  | w :: ws => (w, { s with left := ws })
  | [] =>
      let words := block s.key s.next
      (words.headD 0, { s with next := s.next + 1, left := words.tail })

/-- The next two words, the lower half first. -/
def next64 (s : ChaCha) : UInt64 × ChaCha :=
  let low := s.next32
  let high := low.2.next32
  (low.1.toUInt64 ||| (high.1.toUInt64 <<< 32), high.2)

/-- The stream as a source of words. -/
def source : WordSource ChaCha := ⟨next32, next64⟩

section Seeding

/-- The next state of the generator that spreads a seed over a key. -/
def seedStep (state : UInt64) : UInt64 := state * 6364136223846793005 + 11634580027462260723

/-- The word that a state of that generator gives. -/
def seedWord (state : UInt64) : UInt32 :=
  let x := (((state >>> 18) ^^^ state) >>> 27).toUInt32
  let r := (state >>> 59).toUInt32
  (x >>> r) ||| (x <<< ((32 - r) % 32))

/-- Some words in a row. -/
def seedWords : Nat → UInt64 → List UInt32
  | 0, _ => []
  | n + 1, state => seedWord (seedStep state) :: seedWords n (seedStep state)

/-- The stream of a seed. -/
def ofSeed (seed : UInt64) : ChaCha := ofKey (seedWords 8 seed)

end Seeding

end ChaCha

/-- A list of words, zero behind its end, and the number of words drawn. -/
structure WordList where
  words : List UInt64
  drawn : Nat

namespace WordList

def next64 (l : WordList) : UInt64 × WordList :=
  (l.words.headD 0, ⟨l.words.tail, l.drawn + 1⟩)

/-- The lower half of the next word. -/
def next32 (l : WordList) : UInt32 × WordList :=
  let r := l.next64
  (r.1.toUInt32, r.2)

def source : WordSource WordList := ⟨next32, next64⟩

end WordList

end QuoteBridge
