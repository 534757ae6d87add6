import Forage.Power

/-!
# Words and draws

Every choice in a world is made by drawing 32-bit words from a source. A draw
below `n` takes as many leading bits as `n` has and refuses values that are too
large, so every value below `n` is equally likely. A source is a class, so that
whatever is said of a world holds for a generator and for a stream of words
written down by hand alike.
-/

namespace Forage

/-- A source of 32-bit words: each request gives a word and the source after it. -/
class WordSource (G : Type) where
  next : G → UInt32 × G

/-- A source that a whole number can start afresh. -/
class SeededSource (G : Type) extends WordSource G where
  ofSeed : Int → G

namespace Draw

variable {G : Type} [WordSource G]

def leadingBits (count : Nat) (source : G) : Nat × G :=
  let (word, source) := WordSource.next source
  (word.toNat >>> (32 - count), source)

/--
`full` whole words, the least significant one first, and above them the leading
`rest` bits of one word more.
-/
def wideBits : (full : Nat) → (rest : Nat) → G → Nat × G
  | 0, rest, source => leadingBits rest source
  | full + 1, rest, source =>
      let (low, source) := WordSource.next source
      let (high, source) := wideBits full rest source
      (low.toNat + high * 0x100000000, source)

def bits (count : Nat) (source : G) : Nat × G :=
  wideBits ((count - 1) / 32) (count - 32 * ((count - 1) / 32)) source

/--
How many values in a row a draw refuses before it settles for zero. Each refusal
halves the odds of the next, and the bound exceeds the number of bits in a
generator's state, so no generator is stopped by it.
-/
def attempts : Nat := 65536

/-- Draws `count` bits until the number is below `n`, at most `tries` times. -/
def retry (n count : Nat) : (tries : Nat) → G → Nat × G
  | 0, source => (0, source)
  | tries + 1, source =>
      let (value, source) := bits count source
      if value < n then (value, source) else retry n count tries source

def below (n : Nat) (source : G) : Nat × G :=
  retry n (bitLength n) attempts source

/-- An element of a list, or `default` when the list is empty. -/
def pick {α : Type} (choices : List α) (default : α) (source : G) : α × G :=
  let (index, source) := below choices.length source
  (choices.getD index default, source)

theorem retry_lt {n : Nat} (positive : 0 < n) (count tries : Nat) (source : G) :
    (retry n count tries source).1 < n := by
  induction tries generalizing source with
  | zero => simpa [retry] using positive
  | succ tries inductionHypothesis =>
      simp only [retry]
      split
      · assumption
      · exact inductionHypothesis _

theorem below_lt {n : Nat} (positive : 0 < n) (source : G) : (below n source).1 < n :=
  retry_lt positive _ _ _

theorem pick_mem {α : Type} {choices : List α} (nonempty : choices ≠ []) (default : α)
    (source : G) : (pick choices default source).1 ∈ choices := by
  have bound := below_lt (List.length_pos_iff.mpr nonempty) source
  simp only [pick, List.getD_eq_getElem?_getD, List.getElem?_eq_getElem bound]
  exact List.getElem_mem bound

end Draw

end Forage
