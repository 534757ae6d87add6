import Forage.Random.Words
import Mathlib.Tactic.Ring

/-!
# Scripts

A script is a source whose words are written down beforehand, with the number of those
that have been drawn. On a script it can be said how many words a draw takes, and that it
sees no others. Two draws with different bounds need not take as many words.
-/

namespace Forage

/-- Words in a row, and how many of them have been drawn. -/
structure Script where
  word : Nat → UInt32
  drawn : Nat

instance : WordSource Script where
  next script := (script.word script.drawn, { script with drawn := script.drawn + 1 })

/-- A seed writes down multiples of a large odd number. -/
instance : SeededSource Script where
  ofSeed seed := ⟨fun place => (seed.toNat + place + 1).toUInt32 * 0x9e3779b9, 0⟩

namespace Script

/-- The words that are yet to be drawn. -/
def ahead (script : Script) (place : Nat) : UInt32 :=
  script.word (script.drawn + place)

/-- Two scripts stand at the same place and have the same words from there up to another one. -/
structure Agree (script other : Script) (stop : Nat) : Prop where
  drawn : other.drawn = script.drawn
  word : ∀ place, script.drawn ≤ place → place < stop → other.word place = script.word place

theorem Agree.mono {script other : Script} {stop sooner : Nat} (agree : Agree script other stop)
    (le : sooner ≤ stop) : Agree script other sooner where
  drawn := agree.drawn
  word place from_ before := agree.word place from_ (Nat.lt_of_lt_of_le before le)

/-- Work on a script goes forward, changes no word, and depends on none but those it takes. -/
structure Reads {α : Type} (work : Script → α × Script) : Prop where
  word : ∀ script, (work script).2.word = script.word
  forward : ∀ script, script.drawn ≤ (work script).2.drawn
  same : ∀ {script other}, Agree script other (work script).2.drawn →
    (work other).1 = (work script).1 ∧ (work other).2.drawn = (work script).2.drawn

namespace Reads

variable {α β : Type}

theorem pure (value : α) : Reads fun script => (value, script) where
  word _ := rfl
  forward _ := Nat.le_refl _
  same agree := ⟨rfl, agree.drawn⟩

theorem next : Reads (WordSource.next : Script → UInt32 × Script) where
  word _ := rfl
  forward _ := Nat.le_succ _
  same := by
    intro script other agree
    obtain ⟨drawn, word⟩ := agree
    constructor
    · change other.word other.drawn = script.word script.drawn
      rw [drawn]
      exact word _ (Nat.le_refl _) (Nat.lt_succ_self _)
    · exact congrArg (· + 1) drawn

/-- One piece of work after another, which may depend on what came of the first. -/
theorem bind {first : Script → α × Script} {rest : α → Script → β × Script} (reads : Reads first)
    (others : ∀ value, Reads (rest value)) :
    Reads fun script => rest (first script).1 (first script).2 where
  word script := ((others _).word _).trans (reads.word script)
  forward script := Nat.le_trans (reads.forward script) ((others _).forward _)
  same := by
    intro script other agree
    have further := (others (first script).1).forward (first script).2
    obtain ⟨value, drawn⟩ := reads.same (agree.mono further)
    have onward : Agree (first script).2 (first other).2
        (rest (first script).1 (first script).2).2.drawn := by
      constructor
      · exact drawn
      · intro place from_ before
        rw [reads.word, reads.word]
        exact agree.word place (Nat.le_trans (reads.forward script) from_) before
    rw [value]
    exact (others _).same onward

theorem map {first : Script → α × Script} (reads : Reads first) (change : α → β) :
    Reads fun script => (change (first script).1, (first script).2) :=
  reads.bind fun value => pure (change value)

end Reads

end Script

theorem lt_two_pow_bitLength (n : Nat) : n < 2 ^ bitLength n := by
  unfold bitLength
  split
  · next none => simp [none]
  · exact Nat.lt_log2_self

theorem bitLength_eq {n count : Nat} (low : 2 ^ count ≤ n) (high : n < 2 ^ (count + 1)) :
    bitLength n = count + 1 := by
  have positive : n ≠ 0 := by
    have := Nat.two_pow_pos count
    omega
  rw [bitLength, if_neg positive, (Nat.log2_eq_iff positive).mpr ⟨low, high⟩]

theorem bitLength_pos {n : Nat} (positive : 0 < n) : 0 < bitLength n := by
  rw [bitLength, if_neg (Nat.ne_of_gt positive)]
  exact Nat.succ_pos _

/-- A number and the next one have as many digits, unless the next one is a power of two. -/
theorem bitLength_succ {n : Nat} (positive : 0 < n) :
    bitLength (n + 1) = bitLength n ∨ n + 1 = 2 ^ bitLength n ∧ bitLength (n + 1) = bitLength n + 1 := by
  obtain ⟨count, length⟩ := Nat.exists_eq_succ_of_ne_zero (Nat.ne_of_gt (bitLength_pos positive))
  have high := lt_two_pow_bitLength n
  have low : 2 ^ count ≤ n := by
    have same : Nat.log2 n = count := by
      rw [bitLength, if_neg (Nat.ne_of_gt positive)] at length
      exact Nat.succ.inj length
    rw [← same]
    exact Nat.log2_self_le (Nat.ne_of_gt positive)
  rw [length] at high ⊢
  rcases Nat.lt_or_eq_of_le (Nat.succ_le_of_lt high) with less | power
  · exact .inl (bitLength_eq (Nat.le_succ_of_le low) less)
  · refine .inr ⟨power, bitLength_eq (Nat.le_of_eq power.symm) ?_⟩
    rw [← Nat.succ_eq_add_one, power]
    exact Nat.pow_lt_pow_right (by decide) (Nat.lt_succ_self _)

namespace Draw

open Script

theorem reads_leadingBits (count : Nat) : Reads (leadingBits count : Script → Nat × Script) :=
  Reads.next.map fun word => word.toNat >>> (32 - count)

theorem reads_wideBits (full rest : Nat) : Reads (wideBits full rest : Script → Nat × Script) := by
  induction full with
  | zero => exact reads_leadingBits rest
  | succ full inductionHypothesis =>
      exact Reads.next.bind fun low =>
        inductionHypothesis.map fun high => low.toNat + high * 0x100000000

theorem reads_bits (count : Nat) : Reads (bits count : Script → Nat × Script) :=
  reads_wideBits _ _

theorem reads_retry (n count tries : Nat) : Reads (retry n count tries : Script → Nat × Script) := by
  induction tries with
  | zero => exact Reads.pure 0
  | succ tries inductionHypothesis =>
      have settled (value : Nat) : Reads fun script =>
          if value < n then (value, script) else retry n count tries script := by
        by_cases small : value < n
        · simpa only [small, if_true] using Reads.pure value
        · simpa only [small, if_false] using inductionHypothesis
      exact (reads_bits count).bind settled

theorem reads_below (n : Nat) : Reads (below n : Script → Nat × Script) :=
  reads_retry n (bitLength n) attempts

theorem reads_pick {α : Type} (choices : List α) (default : α) :
    Reads (pick choices default : Script → α × Script) :=
  (reads_below choices.length).map fun index => choices.getD index default

/-- How many words it takes to draw so many bits at once. -/
def words (count : Nat) : Nat :=
  (count - 1) / 32 + 1

theorem wideBits_succ {G : Type} [WordSource G] (full rest : Nat) (source : G) :
    wideBits (full + 1) rest source =
      ((WordSource.next source).1.toNat +
          (wideBits full rest (WordSource.next source).2).1 * 0x100000000,
        (wideBits full rest (WordSource.next source).2).2) :=
  rfl

theorem drawn_wideBits (full rest : Nat) (script : Script) :
    (wideBits full rest script).2.drawn = script.drawn + (full + 1) := by
  induction full generalizing script with
  | zero => rfl
  | succ full inductionHypothesis =>
      rw [wideBits_succ, inductionHypothesis]
      simp only [WordSource.next]
      omega

theorem drawn_bits (count : Nat) (script : Script) :
    (bits count script).2.drawn = script.drawn + words count :=
  drawn_wideBits _ _ script

/-- How many words are taken from a script by a draw below a number. -/
def span (n : Nat) (script : Script) : Nat :=
  (below n script).2.drawn - script.drawn

theorem drawn_below (n : Nat) (script : Script) :
    (below n script).2.drawn = script.drawn + span n script := by
  have forward := (reads_below n).forward script
  rw [span]
  omega

theorem span_pos (n : Nat) (script : Script) : 0 < span n script := by
  have first : (bits (bitLength n) script).2.drawn = script.drawn + words (bitLength n) :=
    drawn_bits _ _
  have positive : 0 < words (bitLength n) := Nat.succ_pos _
  rw [span, below, show attempts = 65535 + 1 from rfl, retry]
  by_cases small : (bits (bitLength n) script).1 < n
  · simp only [small, if_true]
    omega
  · have forward := (reads_retry n (bitLength n) 65535).forward (bits (bitLength n) script).2
    simp only [small, if_false]
    omega

section Trials

variable {G : Type} [WordSource G] {n : Nat} {source : G}

theorem below_of_lt (small : (bits (bitLength n) source).1 < n) :
    below n source = bits (bitLength n) source := by
  rw [below, show attempts = 65535 + 1 from rfl, retry]
  simp only [small, if_true]

theorem below_of_le_of_lt (large : n ≤ (bits (bitLength n) source).1)
    (small : (bits (bitLength n) (bits (bitLength n) source).2).1 < n) :
    below n source = bits (bitLength n) (bits (bitLength n) source).2 := by
  rw [below, show attempts = 65534 + 1 + 1 from rfl, retry]
  simp only [Nat.not_lt.mpr large, if_false]
  rw [retry]
  simp only [small, if_true]

end Trials

theorem bits_of_le {count : Nat} (narrow : count ≤ 32) (script : Script) :
    bits count script =
      ((script.word script.drawn).toNat >>> (32 - count), (WordSource.next script).2) := by
  have none : (count - 1) / 32 = 0 := by omega
  rw [bits, none, Nat.mul_zero, Nat.sub_zero]
  rfl

theorem below_of_zero {n : Nat} {script : Script} (positive : 0 < n) (narrow : bitLength n ≤ 32)
    (zero : script.word script.drawn = 0) : below n script = (0, (WordSource.next script).2) := by
  have value := bits_of_le narrow script
  rw [zero, UInt32.toNat_zero, Nat.zero_shiftRight] at value
  rw [below_of_lt, value]
  rw [value]
  exact positive

theorem span_of_lt {n : Nat} {script : Script} (small : (bits (bitLength n) script).1 < n) :
    span n script = words (bitLength n) := by
  rw [span, below_of_lt small, drawn_bits]
  omega

theorem span_of_le_of_lt {n : Nat} {script : Script} (large : n ≤ (bits (bitLength n) script).1)
    (small : (bits (bitLength n) (bits (bitLength n) script).2).1 < n) :
    span n script = 2 * words (bitLength n) := by
  rw [span, below_of_le_of_lt large small, drawn_bits, drawn_bits]
  omega

section Values

variable {word : Nat → UInt32} {start : Nat}

/-- The last of several words counts for the most; the others count for nothing if they are zero. -/
theorem wideBits_of_last (full rest : Nat)
    (zero : ∀ place, start ≤ place → place < start + full → word place = 0) :
    (wideBits full rest (⟨word, start⟩ : Script)).1 =
      2 ^ (32 * full) * ((word (start + full)).toNat >>> (32 - rest)) := by
  induction full generalizing start with
  | zero => simp [wideBits, leadingBits, WordSource.next]
  | succ full inductionHypothesis =>
      have others := @inductionHypothesis (start + 1) fun place from_ before =>
        zero place (by omega) (by omega)
      have first : word start = 0 := zero start (Nat.le_refl _) (by omega)
      rw [wideBits_succ]
      simp only [WordSource.next]
      rw [others, first, show start + 1 + full = start + (full + 1) by omega,
        show 32 * (full + 1) = 32 * full + 32 by omega, Nat.pow_add]
      simp only [UInt32.toNat_zero]
      ring

theorem bits_of_zero (count : Nat) (script : Script)
    (zero : ∀ place, script.drawn ≤ place → script.word place = 0) :
    (bits count script).1 = 0 := by
  obtain ⟨word, start⟩ := script
  rw [bits, wideBits_of_last _ _ fun place from_ _ => zero place from_, zero _ (Nat.le_add_right _ _)]
  simp

/-- Some words give a number that has as many bits, and only zeros need come after them. -/
theorem exists_wideBits (full : Nat) {rest value : Nat} (start : Nat) (most : rest ≤ 32)
    (bound : value < 2 ^ (32 * full + rest)) :
    ∃ word, (wideBits full rest (⟨word, start⟩ : Script)).1 = value ∧
      ∀ place, start + full < place → word place = 0 := by
  induction full generalizing start value with
  | zero =>
      rw [Nat.mul_zero, Nat.zero_add] at bound
      refine ⟨fun place => if place = start then (value * 2 ^ (32 - rest)).toUInt32 else 0, ?_, ?_⟩
      · have fits : value * 2 ^ (32 - rest) < 2 ^ 32 := by
          calc value * 2 ^ (32 - rest) < 2 ^ rest * 2 ^ (32 - rest) :=
                Nat.mul_lt_mul_of_pos_right bound (Nat.two_pow_pos _)
            _ = 2 ^ 32 := by rw [← Nat.pow_add, Nat.add_sub_of_le most]
        simp only [wideBits, leadingBits, WordSource.next, if_true]
        rw [Nat.toUInt32_eq, UInt32.toNat_ofNat_of_lt' fits, Nat.shiftRight_eq_div_pow,
          Nat.mul_div_cancel _ (Nat.two_pow_pos _)]
      · intro place beyond
        have apart : place ≠ start := by omega
        simp [apart]
  | succ full inductionHypothesis =>
      have fewer : value / 2 ^ 32 < 2 ^ (32 * full + rest) := by
        apply Nat.div_lt_of_lt_mul
        rw [← Nat.pow_add]
        convert bound using 2
        omega
      obtain ⟨later, high, zero⟩ := inductionHypothesis (start + 1) fewer
      let word : Nat → UInt32 := fun place =>
        if place = start then (value % 2 ^ 32).toUInt32 else later place
      refine ⟨word, ?_, ?_⟩
      · have agree : Agree ⟨later, start + 1⟩ ⟨word, start + 1⟩
            (wideBits full rest (⟨later, start + 1⟩ : Script)).2.drawn := by
          constructor
          · rfl
          · intro place from_ _
            have apart : place ≠ start := Nat.ne_of_gt from_
            exact if_neg apart
        have lower : value % 2 ^ 32 < 2 ^ 32 := Nat.mod_lt _ (by decide)
        have first : word start = (value % 2 ^ 32).toUInt32 := if_pos rfl
        rw [wideBits_succ]
        simp only [WordSource.next]
        rw [((reads_wideBits full rest).same agree).1, high, first, Nat.toUInt32_eq,
          UInt32.toNat_ofNat_of_lt' lower]
        exact Nat.mod_add_div' value (2 ^ 32)
      · intro place beyond
        have apart : place ≠ start := by omega
        simp only [word, apart, if_false]
        exact zero place (by omega)

theorem exists_bits {count value : Nat} (start : Nat) (positive : 0 < count)
    (bound : value < 2 ^ count) :
    ∃ word, (bits count (⟨word, start⟩ : Script)).1 = value ∧
      ∀ place, start + words count ≤ place → word place = 0 := by
  have split : 32 * ((count - 1) / 32) + (count - 32 * ((count - 1) / 32)) = count := by omega
  obtain ⟨word, first, zero⟩ := exists_wideBits ((count - 1) / 32) start
    (show count - 32 * ((count - 1) / 32) ≤ 32 by omega) (split.symm ▸ bound)
  refine ⟨word, first, fun place beyond => zero place ?_⟩
  rw [words] at beyond
  omega

end Values

end Draw

end Forage
