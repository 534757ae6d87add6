import Forage.Random.Words

/-!
# The twister

The 32-bit twister with a state of 624 words. The words form a ring; each
request renews the word at the cursor from it, its neighbour and the word 397
places on, and gives the renewed word tempered. A seed of any size fills the
ring through its 32-bit digits.
-/

namespace Forage

/-- The ring of words and the place of the one renewed next. -/
structure Twister where
  ring : Array UInt32
  cursor : Nat
deriving DecidableEq

namespace Twister

def size : Nat := 624

def stride : Nat := 397

def wordAt (ring : Array UInt32) (place : Nat) : UInt32 :=
  ring.getD place 0

/-- The renewed word: the leading bit of one word joined to the rest of its neighbour, halved and mixed. -/
def renewed (word neighbour distant : UInt32) : UInt32 :=
  let joined := (word &&& 0x80000000) ||| (neighbour &&& 0x7fffffff)
  distant ^^^ (joined >>> 1) ^^^ (if joined &&& 1 = 0 then 0 else 0x9908b0df)

def tempered (word : UInt32) : UInt32 :=
  let word := word ^^^ (word >>> 11)
  let word := word ^^^ ((word <<< 7) &&& 0x9d2c5680)
  let word := word ^^^ ((word <<< 15) &&& 0xefc60000)
  word ^^^ (word >>> 18)

def next (twister : Twister) : UInt32 × Twister :=
  let ⟨ring, cursor⟩ := twister
  let word := renewed (wordAt ring cursor) (wordAt ring ((cursor + 1) % size))
    (wordAt ring ((cursor + stride) % size))
  (tempered word, ⟨ring.setIfInBounds cursor word, (cursor + 1) % size⟩)

/-- The mixture of a word with its left neighbour that both passes of seeding use. -/
def stirred (factor left word : UInt32) : UInt32 :=
  word ^^^ ((left ^^^ (left >>> 30)) * factor)

def filled (word : UInt32) : Array UInt32 :=
  (List.range (size - 1)).foldl
    (fun ring place =>
      let left := wordAt ring place
      ring.push ((left ^^^ (left >>> 30)) * 1812433253 + (place + 1).toUInt32))
    #[word]

structure Seeding where
  ring : Array UInt32
  place : Nat

/-- Writes a word and moves on; past the last place the last word is copied to the front. -/
def Seeding.write (seeding : Seeding) (word : UInt32) : Seeding :=
  let ⟨ring, place⟩ := seeding
  let ring := ring.setIfInBounds place word
  if place + 1 < size then ⟨ring, place + 1⟩ else ⟨ring.setIfInBounds 0 (wordAt ring (size - 1)), 1⟩

def Seeding.stir (seeding : Seeding) (factor : UInt32) : UInt32 :=
  stirred factor (wordAt seeding.ring (seeding.place - 1)) (wordAt seeding.ring seeding.place)

/-- The ring that a list of digits fills: one pass adds the digits, a second one the places. -/
def ofDigits (digits : Array UInt32) : Twister :=
  let first := (List.range (max size digits.size)).foldl
    (fun seeding turn =>
      let index := turn % digits.size
      seeding.write (seeding.stir 1664525 + wordAt digits index + index.toUInt32))
    (Seeding.mk (filled 19650218) 1)
  let second := (List.range (size - 1)).foldl
    (fun seeding _ =>
      seeding.write (seeding.stir 1566083941 - seeding.place.toUInt32))
    first
  ⟨second.ring.setIfInBounds 0 0x80000000, 0⟩

/-- The 32-bit digits of a number, the least significant first; zero has one. -/
def digits (n : Nat) : Array UInt32 :=
  ((List.range (max 1 ((bitLength n + 31) / 32))).map fun place =>
    (n >>> (32 * place)).toUInt32).toArray

/-- A seed and its negation start the same stream. -/
def ofSeed (seed : Int) : Twister :=
  ofDigits (digits seed.natAbs)

instance : SeededSource Twister where
  next := next
  ofSeed := ofSeed

end Twister

end Forage
