import NumberedBasic.Number.Round

/-! # Random numbers

The generator is the Mersenne twister of period `2 ^ 19937 - 1`, seeded from the
32-bit words of a whole number. Each draw takes two of its outputs and makes a
number below one with 53 random binary digits.
-/

namespace NumberedBasic

/-- The twister's words and the place of the next one to give out. -/
structure Generator where
  words : Array UInt32
  next : Nat
  deriving DecidableEq, Inhabited

namespace Generator

def size : Nat := 624

def mix (word : UInt32) : UInt32 :=
  word ^^^ (word >>> 30)

def base : Array UInt32 :=
  (List.range (size - 1)).foldl (fun words i =>
    words.push (1812433253 * mix (words.getD i 0) + UInt32.ofNat (i + 1))) #[19650218]

/-- After the last word comes the second one, and the first takes the last one's value. -/
def wrap (words : Array UInt32) (i : Nat) : Array UInt32 × Nat :=
  if i < size then (words, i) else (words.setIfInBounds 0 (words.getD (size - 1) 0), 1)

/-- Scrambles the seed's words into the state, taking both in turn. -/
def stirIn (key : Array UInt32) : Nat → Array UInt32 → Nat → Nat → Array UInt32 × Nat
  | 0, words, i, _ => (words, i)
  | rounds + 1, words, i, j =>
    let word := (words.getD i 0 ^^^ (mix (words.getD (i - 1) 0) * 1664525)) +
      key.getD j 0 + UInt32.ofNat j
    let (words, i) := wrap (words.setIfInBounds i word) (i + 1)
    stirIn key rounds words i (if j + 1 < key.size then j + 1 else 0)

/-- Scrambles the state once more with the places of its words. -/
def stir : Nat → Array UInt32 → Nat → Array UInt32
  | 0, words, _ => words
  | rounds + 1, words, i =>
    let word := (words.getD i 0 ^^^ (mix (words.getD (i - 1) 0) * 1566083941)) - UInt32.ofNat i
    let (words, i) := wrap (words.setIfInBounds i word) (i + 1)
    stir rounds words i

/-- The 32-bit words of a whole number, the lowest first. -/
def wordsOf (n : Nat) : List UInt32 :=
  if n < 2 ^ 32 then [UInt32.ofNat n] else UInt32.ofNat (n % 2 ^ 32) :: wordsOf (n / 2 ^ 32)
termination_by n
decreasing_by omega

/-- The generator for a seed, whose sign does not matter. -/
def ofSeed (seed : Int) : Generator :=
  let key := (wordsOf seed.natAbs).toArray
  let (words, i) := stirIn key (max size key.size) base 1 0
  ⟨(stir (size - 1) words i).setIfInBounds 0 0x80000000, size⟩

/-- Renews all words. -/
def twist (words : Array UInt32) : Array UInt32 :=
  (List.range size).foldl (fun words i =>
    let y := (words.getD i 0 &&& 0x80000000) ||| (words.getD ((i + 1) % size) 0 &&& 0x7fffffff)
    let word := words.getD ((i + 397) % size) 0 ^^^ (y >>> 1)
    words.setIfInBounds i (if y &&& 1 = 1 then word ^^^ 0x9908b0df else word)) words

def temper (word : UInt32) : UInt32 :=
  let word := word ^^^ (word >>> 11)
  let word := word ^^^ ((word <<< 7) &&& 0x9d2c5680)
  let word := word ^^^ ((word <<< 15) &&& 0xefc60000)
  word ^^^ (word >>> 18)

def nextWord (g : Generator) : UInt32 × Generator :=
  let g := if g.next < size then g else ⟨twist g.words, 0⟩
  (temper (g.words.getD g.next 0), { g with next := g.next + 1 })

/-- The next random number: 53 binary digits after the point. -/
def draw (g : Generator) : Number × Generator :=
  let (high, g) := g.nextWord
  let (low, g) := g.nextWord
  let digits := (high >>> 5).toNat * 2 ^ 26 + (low >>> 6).toNat
  (Number.round false (digits * unitsOfOne) (2 ^ 53), g)

end Generator

end NumberedBasic
