import PolyTrace.Arith.Binary64

/-!
# Pseudorandom numbers

The generator keeps 624 words of 32 bits.  Each block of words is made from the last by a linear
recurrence over the bits, and a word is tempered before it is handed out.  The generator is seeded
by a list of words, so that a whole number of any size can be a seed.
-/

namespace PolyTrace

/-- The state of the generator: its words and the place of the next one. -/
structure Twister where
  words : Array UInt32
  next : Nat

namespace Twister

/-- The number of words. -/
def size : Nat := 624

/-- The distance of the words that are combined. -/
def shift : Nat := 397

/-- The word at a place. -/
def word (words : Array UInt32) (i : Nat) : UInt32 :=
  words.getD i 0

/-- A word mixed with its own upper bits. -/
def fold (w : UInt32) : UInt32 :=
  w ^^^ (w >>> 30)

/-- The words that follow from one word. -/
def ofWord (seed : UInt32) : Array UInt32 :=
  (List.range (size - 1)).foldl
    (fun words i => words.push (1812433253 * fold (word words i) + UInt32.ofNat (i + 1))) #[seed]

/-- The place after a place, past the first one. -/
def following (i : Nat) : Nat :=
  if i + 1 < size then i + 1 else 1

/-- Change the word at a place by the one before it; the last word is carried over to the front. -/
def stir (change : UInt32 → UInt32 → UInt32) (words : Array UInt32) (i : Nat) : Array UInt32 :=
  let value := change (word words i) (fold (word words (i - 1)))
  let words := words.setIfInBounds i value
  if i + 1 < size then words else words.setIfInBounds 0 value

/-- Mix the key into the words: `fuel` more times, at place `i` with entry `j` of the key. -/
def absorb (key : Array UInt32) : (fuel i j : Nat) → Array UInt32 → Nat × Array UInt32
  | 0, i, _, words => (i, words)
  | fuel + 1, i, j, words =>
    let entry := word key j + UInt32.ofNat j
    let words := stir (fun w before => (w ^^^ (before * 1664525)) + entry) words i
    absorb key fuel (following i) (if j + 1 < key.size then j + 1 else 0) words

/-- Mix the words among themselves: `fuel` more times, from place `i` on. -/
def scatter : (fuel i : Nat) → Array UInt32 → Array UInt32
  | 0, _, words => words
  | fuel + 1, i, words =>
    scatter fuel (following i)
      (stir (fun w before => (w ^^^ (before * 1566083941)) - UInt32.ofNat i) words i)

/-- The generator seeded by a key. -/
def ofKey (key : Array UInt32) : Twister :=
  let (place, words) := absorb key (max size key.size) 1 0 (ofWord 19650218)
  let words := scatter (size - 1) place words
  ⟨words.setIfInBounds 0 0x80000000, size⟩

/-- The words of a whole number, lowest first, read with at most `fuel` words. -/
def wordsOf : (fuel n : Nat) → List UInt32
  | 0, _ => []
  | fuel + 1, n => if n = 0 then [] else UInt32.ofNat n :: wordsOf fuel (n / twoPow 32)

/-- The generator seeded by a whole number; its sign does not matter. -/
def ofSeed (seed : Int) : Twister :=
  let n := seed.natAbs
  ofKey (if n = 0 then #[0] else (wordsOf (n.log2 / 32 + 1) n).toArray)

/-- The next block of words. -/
def renew (words : Array UInt32) : Array UInt32 :=
  (List.range size).foldl
    (fun words i =>
      let joined := (word words i &&& 0x80000000) ||| (word words ((i + 1) % size) &&& 0x7fffffff)
      let twisted := (joined >>> 1) ^^^ (if joined &&& 1 = 1 then 0x9908b0df else 0)
      words.setIfInBounds i (word words ((i + shift) % size) ^^^ twisted))
    words

/-- A word with its bits spread. -/
def temper (w : UInt32) : UInt32 :=
  let w := w ^^^ (w >>> 11)
  let w := w ^^^ ((w <<< 7) &&& 0x9d2c5680)
  let w := w ^^^ ((w <<< 15) &&& 0xefc60000)
  w ^^^ (w >>> 18)

/-- The next word. -/
def draw (twister : Twister) : UInt32 × Twister :=
  let twister := if twister.next < size then twister else ⟨renew twister.words, 0⟩
  (temper (word twister.words twister.next), { twister with next := twister.next + 1 })

/-- A number of at least zero and less than one, as a multiple of `2 ^ (-53)`. -/
def unit (twister : Twister) : Float × Twister :=
  let (a, twister) := twister.draw
  let (b, twister) := twister.draw
  let units := (a >>> 5).toNat * twoPow 26 + (b >>> 6).toNat
  (Binary64.nearest false units (twoPow 53), twister)

/-- A number between two bounds. -/
def uniform (low high : Float) (twister : Twister) : Float × Twister :=
  let (share, twister) := twister.unit
  (low + (high - low) * share, twister)

/-- The given number of numbers between two bounds. -/
def uniforms (low high : Float) : (count : Nat) → Twister → List Float × Twister
  | 0, twister => ([], twister)
  | count + 1, twister =>
    let (first, twister) := twister.uniform low high
    let (rest, twister) := uniforms low high count twister
    (first :: rest, twister)

end Twister

end PolyTrace
