import Forage.Proofs.Script
import Forage.Tape.Mutation

/-!
# Words that an edit takes

The candidate opcode is drawn for every kind of edit, but the place is not drawn alike: an
insertion has one place more to choose from than the other kinds have. So the words that a
mutation takes do not depend on the kind of edit for a tape of a single opcode, and for no
other: there is always a script on which an insertion and a deletion part.
-/

namespace Forage

open Script

namespace Draw

theorem span_congr {script other : Script} (n : Nat) (drawn : other.drawn = script.drawn)
    (word : ∀ place, script.drawn ≤ place → other.word place = script.word place) :
    span n other = span n script := by
  have agree : Agree script other (below n script).2.drawn :=
    ⟨drawn, fun place from_ _ => word place from_⟩
  obtain ⟨-, same⟩ := (reads_below n).same agree
  rw [span, span, same, drawn]

theorem span_two (script : Script) : span 2 script = span 1 script := by
  have step (tries : Nat) (script : Script) :
      (retry 2 2 tries script).2.drawn = (retry 1 1 tries script).2.drawn := by
    induction tries generalizing script with
    | zero => rfl
    | succ tries inductionHypothesis =>
        have two : bits 2 script =
            ((script.word script.drawn).toNat >>> 30, (WordSource.next script).2) := rfl
        have one : bits 1 script =
            ((script.word script.drawn).toNat >>> 31, (WordSource.next script).2) := rfl
        have alike : (script.word script.drawn).toNat >>> 30 < 2 ↔
            (script.word script.drawn).toNat >>> 31 < 1 := by
          rw [Nat.shiftRight_eq_div_pow, Nat.shiftRight_eq_div_pow]
          omega
        simp only [retry, two, one, alike]
        split
        · rfl
        · exact inductionHypothesis _
  exact congrArg (· - script.drawn) (step attempts script)

section Apart

variable {n : Nat} (several : 2 ≤ n) (start : Nat)

theorem words_pos (count : Nat) : 0 < words count := Nat.succ_pos _

theorem settles_of_zero {start count bound : Nat} {word : Nat → UInt32} (positive : 0 < bound)
    (zero : ∀ place, start + words count ≤ place → word place = 0) :
    (bits count (bits count (⟨word, start⟩ : Script)).2).1 < bound := by
  rw [bits_of_zero]
  · exact positive
  · intro place beyond
    rw [drawn_bits] at beyond
    rw [(reads_bits count).word]
    exact zero place beyond

include several

theorem exists_span_ne_of_same (same : bitLength (n + 1) = bitLength n) :
    ∃ word, span (n + 1) (⟨word, start⟩ : Script) ≠ span n ⟨word, start⟩ := by
  have positive : 0 < n := Nat.lt_of_lt_of_le (by decide) several
  obtain ⟨word, first, zero⟩ := exists_bits start (bitLength_pos positive) (lt_two_pow_bitLength n)
  refine ⟨word, ?_⟩
  rw [span_of_lt (n := n + 1), span_of_le_of_lt (n := n), same]
  · have := words_pos (bitLength n)
    omega
  · exact Nat.le_of_eq first.symm
  · exact settles_of_zero positive zero
  · rw [same, first]
    exact Nat.lt_succ_self n

theorem exists_span_ne_of_whole (longer : bitLength (n + 1) = bitLength n + 1)
    (whole : bitLength n % 32 = 0) :
    ∃ word, span (n + 1) (⟨word, start⟩ : Script) ≠ span n ⟨word, start⟩ := by
  have positive : 0 < bitLength n := bitLength_pos (Nat.lt_of_lt_of_le (by decide) several)
  refine ⟨fun _ => 0, ?_⟩
  rw [span_of_lt (n := n + 1), span_of_lt (n := n), longer, words, words]
  · omega
  · rw [bits_of_zero _ _ fun _ _ => rfl]
    omega
  · rw [bits_of_zero _ _ fun _ _ => rfl]
    omega

/-- The one draw takes the leading half of the numbers, which the other refuses. -/
theorem exists_span_ne_of_power (power : n + 1 = 2 ^ bitLength n)
    (longer : bitLength (n + 1) = bitLength n + 1) (whole : bitLength n % 32 ≠ 0) :
    ∃ word, span (n + 1) (⟨word, start⟩ : Script) ≠ span n ⟨word, start⟩ := by
  have positive : 0 < bitLength n := bitLength_pos (Nat.lt_of_lt_of_le (by decide) several)
  let last : Nat := (bitLength n - 1) / 32
  let word : Nat → UInt32 := fun place => if place = start + last then 0x80000000 else 0
  have zero : ∀ place, start ≤ place → place < start + last → word place = 0 :=
    fun place _ before => if_neg (Nat.ne_of_lt before)
  have top : (word (start + last)).toNat = 2 ^ 31 := by simp [word]
  have value {rest : Nat} (low : 1 ≤ rest) (high : rest ≤ 32) :
      (wideBits last rest (⟨word, start⟩ : Script)).1 = 2 ^ (32 * last + rest - 1) := by
    rw [wideBits_of_last _ _ zero, top, Nat.shiftRight_eq_div_pow,
      Nat.pow_div (by omega) (by decide), ← Nat.pow_add]
    congr 1
    omega
  have sameLast : (bitLength n + 1 - 1) / 32 = last := by omega
  have sameWords : words (bitLength n + 1) = words (bitLength n) := by
    rw [words, words, sameLast]
  have shorter : (bits (bitLength n) (⟨word, start⟩ : Script)).1 = 2 ^ (bitLength n - 1) := by
    rw [bits, show (bitLength n - 1) / 32 = last from rfl, value (by omega) (by omega)]
    congr 1
    omega
  have larger : (bits (bitLength n + 1) (⟨word, start⟩ : Script)).1 = 2 ^ bitLength n := by
    rw [bits, sameLast, value (by omega) (by omega)]
    congr 1
    omega
  refine ⟨word, ?_⟩
  rw [span_of_le_of_lt (n := n + 1), span_of_lt (n := n), longer, sameWords]
  · have := words_pos (bitLength n)
    omega
  · rw [shorter]
    have halves : 2 ^ bitLength n = 2 * 2 ^ (bitLength n - 1) := by
      rw [← Nat.pow_succ', Nat.succ_eq_add_one, Nat.sub_add_cancel positive]
    omega
  · rw [longer, larger, power]
  · rw [longer]
    refine settles_of_zero (Nat.succ_pos _) fun place beyond => if_neg ?_
    rw [sameWords, words] at beyond
    exact Nat.ne_of_gt beyond

/-- From two values on, some script sets draws below a number and below the next one apart. -/
theorem exists_span_ne :
    ∃ word, span (n + 1) (⟨word, start⟩ : Script) ≠ span n ⟨word, start⟩ := by
  rcases bitLength_succ (Nat.lt_of_lt_of_le (by decide) several) with same | ⟨power, longer⟩
  · exact exists_span_ne_of_same several start same
  · by_cases whole : bitLength n % 32 = 0
    · exact exists_span_ne_of_whole several start longer whole
    · exact exists_span_ne_of_power several start power longer whole

end Apart

end Draw

namespace Edit

section Source

variable {G : Type} [WordSource G]

/-- The kind of an edit, which is drawn after the roll and the candidate. -/
def kindDraw (vocabulary : Vocabulary) (source : G) : Nat × G :=
  Draw.below kinds (vocabulary.draw (Draw.below Tape.percent source).2).2

/-- How many places there are for an edit of a kind on a tape of some length. -/
def room (length kind : Nat) : Nat :=
  if kind = 1 then length + 1 else length

/-- Where an edit is made, its place is drawn last, from as many places as its kind has. -/
theorem source_mutate (tape : Tape) {rate : Int} (vocabulary : Vocabulary) {source : G}
    (edited : ((Draw.below Tape.percent source).1 : Int) < rate) :
    (tape.mutate rate vocabulary source).2 =
      (Draw.below (room tape.length (kindDraw vocabulary source).1)
        (kindDraw vocabulary source).2).2 := by
  rw [kindDraw]
  unfold Tape.mutate Edit.draw room
  simp only [Int.not_le.mpr edited, if_false]
  by_cases deleted : (Draw.below kinds (vocabulary.draw (Draw.below Tape.percent source).2).2).1 = 0
  · simp only [deleted, if_true, Nat.zero_ne_one, if_false]
  · by_cases inserted :
        (Draw.below kinds (vocabulary.draw (Draw.below Tape.percent source).2).2).1 = 1
    · simp only [inserted, Nat.one_ne_zero, if_false, if_true]
    · simp only [deleted, inserted, if_false]

end Source

/-- The two leading bits of a word, which settle the kind of an edit or are refused. -/
def kindOf (word : UInt32) : Nat :=
  word.toNat >>> 30

theorem retry_kinds (tries : Nat) (script : Script) :
    Draw.retry kinds 2 (tries + 1) script =
      if kindOf (script.word script.drawn) < kinds then
        (kindOf (script.word script.drawn), (WordSource.next script).2)
      else Draw.retry kinds 2 tries (WordSource.next script).2 :=
  rfl

/-- If only the word that settles a kind is replaced, the new word settles a kind as well. -/
theorem drawn_retry {tries place : Nat} {script other : Script}
    (last : (Draw.retry kinds 2 tries script).2.drawn = place + 1)
    (taken : kindOf (script.word place) < kinds) (takenToo : kindOf (other.word place) < kinds)
    (agree : Agree script other place) :
    (Draw.retry kinds 2 tries other).2.drawn = place + 1 := by
  induction tries generalizing script other with
  | zero => exact agree.drawn.trans last
  | succ tries inductionHypothesis =>
      rw [retry_kinds] at last ⊢
      have here : other.word other.drawn = other.word script.drawn :=
        congrArg other.word agree.drawn
      rw [here]
      by_cases first : place = script.drawn
      · subst first
        rw [if_pos takenToo]
        exact congrArg (· + 1) agree.drawn
      · by_cases small : kindOf (script.word script.drawn) < kinds
        · rw [if_pos small] at last
          exact absurd (Nat.succ.inj last).symm first
        · rw [if_neg small] at last
          have forward := (Draw.reads_retry kinds 2 tries).forward (WordSource.next script).2
          have later : script.drawn < place := by
            have one : (WordSource.next script).2.drawn = script.drawn + 1 := rfl
            omega
          have same := agree.word script.drawn (Nat.le_refl _) later
          rw [same, if_neg small]
          apply @inductionHypothesis (WordSource.next script).2 (WordSource.next other).2 last taken takenToo
          constructor
          · exact congrArg (· + 1) agree.drawn
          · exact fun other from_ before => agree.word other (Nat.le_of_succ_le from_) before

/-- The roll and the candidate, which are drawn before the kind. -/
def lead (vocabulary : Vocabulary) (script : Script) : (Nat × Opcode) × Script :=
  (((Draw.below Tape.percent script).1, (vocabulary.draw (Draw.below Tape.percent script).2).1),
    (vocabulary.draw (Draw.below Tape.percent script).2).2)

theorem reads_lead (vocabulary : Vocabulary) : Reads (lead vocabulary) :=
  (Draw.reads_below Tape.percent).bind fun roll =>
    (Draw.reads_pick vocabulary.opcodes .sleep).map fun candidate => (roll, candidate)

theorem kindDraw_eq (vocabulary : Vocabulary) (script : Script) :
    kindDraw vocabulary script = Draw.retry kinds 2 Draw.attempts (lead vocabulary script).2 := by
  have length : bitLength kinds = 2 := by decide
  rw [kindDraw, Draw.below, length]
  rfl

theorem reads_kindDraw (vocabulary : Vocabulary) : Reads (kindDraw vocabulary) :=
  (reads_lead vocabulary).bind fun _ => Draw.reads_below kinds

/-- An edit takes the words of its kind, and as many more as the places for it call for. -/
theorem drawn_mutate (tape : Tape) {rate : Int} (vocabulary : Vocabulary) {script : Script}
    (edited : ((Draw.below Tape.percent script).1 : Int) < rate) :
    (tape.mutate rate vocabulary script).2.drawn =
      (kindDraw vocabulary script).2.drawn +
        Draw.span (room tape.length (kindDraw vocabulary script).1)
          (kindDraw vocabulary script).2 := by
  rw [source_mutate tape vocabulary edited, Draw.drawn_below]

/--
Two scripts that lead to an edit, and differ from where they stand in nothing but the word
that settles its kind. In both of them it settles one.
-/
structure Forked (rate : Int) (vocabulary : Vocabulary) (script other : Script) : Prop where
  drawn : other.drawn = script.drawn
  edited : ((Draw.below Tape.percent script).1 : Int) < rate
  elsewhere : ∀ place, script.drawn ≤ place →
    place + 1 ≠ (kindDraw vocabulary script).2.drawn → other.word place = script.word place
  settled : ∀ place, place + 1 = (kindDraw vocabulary script).2.drawn →
    kindOf (script.word place) < kinds ∧ kindOf (other.word place) < kinds

namespace Forked

variable {rate : Int} {vocabulary : Vocabulary} {script other : Script}

/-- There is a word that settles the kind, and up to it nothing tells the scripts apart. -/
theorem exists_place (forked : Forked rate vocabulary script other) :
    ∃ place, (kindDraw vocabulary script).2.drawn = place + 1 ∧
      (lead vocabulary script).2.drawn ≤ place ∧ Agree script other place := by
  have spent : (kindDraw vocabulary script).2.drawn =
      (lead vocabulary script).2.drawn + Draw.span kinds (lead vocabulary script).2 :=
    Draw.drawn_below _ _
  have positive := Draw.span_pos kinds (lead vocabulary script).2
  refine ⟨(kindDraw vocabulary script).2.drawn - 1, by omega, by omega, forked.drawn, ?_⟩
  intro place from_ before
  apply forked.elsewhere place from_
  omega

theorem lead_eq (forked : Forked rate vocabulary script other) :
    (lead vocabulary other).1 = (lead vocabulary script).1 ∧
      (lead vocabulary other).2.drawn = (lead vocabulary script).2.drawn := by
  obtain ⟨place, -, reached, agree⟩ := forked.exists_place
  exact (reads_lead vocabulary).same (agree.mono reached)

theorem edited_other (forked : Forked rate vocabulary script other) :
    ((Draw.below Tape.percent other).1 : Int) < rate := by
  have roll : (Draw.below Tape.percent other).1 = (Draw.below Tape.percent script).1 :=
    congrArg (fun drawn => drawn.1) forked.lead_eq.1
  rw [roll]
  exact forked.edited

theorem drawn_kindDraw (forked : Forked rate vocabulary script other) :
    (kindDraw vocabulary other).2.drawn = (kindDraw vocabulary script).2.drawn := by
  obtain ⟨place, last, reached, agree⟩ := forked.exists_place
  obtain ⟨taken, takenToo⟩ := forked.settled place last.symm
  have onward : Agree (lead vocabulary script).2 (lead vocabulary other).2 place := by
    constructor
    · exact forked.lead_eq.2
    · intro place from_ before
      rw [(reads_lead vocabulary).word, (reads_lead vocabulary).word]
      exact agree.word place (Nat.le_trans ((reads_lead vocabulary).forward script) from_) before
  rw [last, kindDraw_eq]
  rw [kindDraw_eq] at last
  apply drawn_retry last
  · rwa [(reads_lead vocabulary).word]
  · rwa [(reads_lead vocabulary).word]
  · exact onward

theorem word_kindDraw (forked : Forked rate vocabulary script other) {place : Nat}
    (from_ : (kindDraw vocabulary script).2.drawn ≤ place) :
    (kindDraw vocabulary other).2.word place = (kindDraw vocabulary script).2.word place := by
  have forward := (reads_kindDraw vocabulary).forward script
  rw [(reads_kindDraw vocabulary).word, (reads_kindDraw vocabulary).word]
  exact forked.elsewhere place (by omega) (by omega)

theorem span_eq (forked : Forked rate vocabulary script other) (n : Nat) :
    Draw.span n (kindDraw vocabulary other).2 = Draw.span n (kindDraw vocabulary script).2 :=
  Draw.span_congr n forked.drawn_kindDraw fun _ from_ => forked.word_kindDraw from_

variable (tape : Tape)

/-- How many words are taken in the other script is told by its kind, and by nothing else. -/
theorem drawn_mutate_other (forked : Forked rate vocabulary script other) :
    (tape.mutate rate vocabulary other).2.drawn =
      (kindDraw vocabulary script).2.drawn +
        Draw.span (room tape.length (kindDraw vocabulary other).1)
          (kindDraw vocabulary script).2 := by
  rw [drawn_mutate tape vocabulary forked.edited_other, forked.drawn_kindDraw, forked.span_eq]

theorem ahead_mutate (forked : Forked rate vocabulary script other)
    (drawn : (tape.mutate rate vocabulary other).2.drawn =
      (tape.mutate rate vocabulary script).2.drawn) :
    (tape.mutate rate vocabulary other).2.ahead = (tape.mutate rate vocabulary script).2.ahead := by
  funext place
  have reached := drawn_mutate tape vocabulary forked.edited
  rw [ahead, ahead, drawn, source_mutate tape vocabulary forked.edited_other,
    source_mutate tape vocabulary forked.edited, (Draw.reads_below _).word,
    (Draw.reads_below _).word]
  rw [source_mutate tape vocabulary forked.edited] at reached
  apply forked.word_kindDraw
  omega

end Forked

/-- A roll that leads to an edit, the first candidate, a word for the kind, and others after it. -/
def crossing (kind : UInt32) (later : Nat → UInt32) : Script where
  word place := if place < 2 then 0 else if place = 2 then kind else later place
  drawn := 0

section Crossing

variable {kind other : UInt32} (later : Nat → UInt32)

theorem roll_crossing :
    Draw.below Tape.percent (crossing kind later) = (0, ⟨(crossing kind later).word, 1⟩) :=
  Draw.below_of_zero (by decide) (by decide) rfl

theorem kindDraw_crossing (taken : kindOf kind < kinds) :
    kindDraw .basic (crossing kind later) = (kindOf kind, ⟨(crossing kind later).word, 3⟩) := by
  have candidate : Draw.below Vocabulary.basic.opcodes.length
      (⟨(crossing kind later).word, 1⟩ : Script) = (0, ⟨(crossing kind later).word, 2⟩) :=
    Draw.below_of_zero (by decide) (by decide) rfl
  have first : Draw.bits (bitLength kinds) (⟨(crossing kind later).word, 2⟩ : Script) =
      (kindOf kind, ⟨(crossing kind later).word, 3⟩) :=
    Draw.bits_of_le (by decide) _
  rw [kindDraw, Vocabulary.draw, Draw.pick, roll_crossing, candidate, Draw.below_of_lt, first]
  rw [first]
  exact taken

/-- Words that begin with a half, which is below 3 among four values and not below 2. -/
def parting (place : Nat) : UInt32 :=
  if place = 3 then 0x80000000 else if place = 4 then 0 else 1

theorem span_crossing (n : Nat) (kind : UInt32) :
    Draw.span n ⟨(crossing kind later).word, 3⟩ = Draw.span n ⟨later, 3⟩ := by
  refine Draw.span_congr n ?_ ?_
  · rfl
  intro place from_
  have beyond : ¬place < 2 ∧ place ≠ 2 := by
    simp only at from_
    omega
  simp only [crossing, beyond, if_false]

theorem forked_crossing (taken : kindOf kind < kinds) (takenToo : kindOf other < kinds) :
    Forked 1 .basic (crossing kind later) (crossing other later) where
  drawn := rfl
  edited := by
    rw [roll_crossing]
    exact Int.zero_lt_one
  elsewhere := by
    intro place _ apart
    rw [kindDraw_crossing later taken] at apart
    have apart : place ≠ 2 := fun same => apart (congrArg (· + 1) same)
    simp only [crossing, apart, if_false]
  settled := by
    intro place last
    rw [kindDraw_crossing later taken] at last
    rw [Nat.succ.inj last]
    exact ⟨taken, takenToo⟩

end Crossing

end Edit

namespace Tape

open Edit

/--
How many words a mutation takes when nothing but the kind of the edit is replaced: those up to
the kind, and those of a draw below the number of places that there are for the new kind. It
is the same number for all kinds if the tape has one opcode, and for no other tape.
-/
theorem words_of_kinds {tape : Tape} (some : tape.opcodes ≠ []) :
    (∀ rate vocabulary script other, Forked rate vocabulary script other →
      (tape.mutate rate vocabulary script).2.drawn =
          (kindDraw vocabulary script).2.drawn +
            Draw.span (room tape.length (kindDraw vocabulary script).1)
              (kindDraw vocabulary script).2 ∧
        (tape.mutate rate vocabulary other).2.drawn =
          (kindDraw vocabulary script).2.drawn +
            Draw.span (room tape.length (kindDraw vocabulary other).1)
              (kindDraw vocabulary script).2) ∧
      ((∀ rate vocabulary script other, Forked rate vocabulary script other →
          (tape.mutate rate vocabulary other).2.drawn =
              (tape.mutate rate vocabulary script).2.drawn ∧
            (tape.mutate rate vocabulary other).2.ahead =
              (tape.mutate rate vocabulary script).2.ahead) ↔
        tape.length = 1) := by
  constructor
  · intro rate vocabulary script other forked
    exact ⟨drawn_mutate tape vocabulary forked.edited, forked.drawn_mutate_other tape⟩
  · constructor
    · intro promise
      by_contra longer
      have several : 2 ≤ tape.length := by
        have positive := List.length_pos_iff.mpr some
        rw [length] at longer ⊢
        omega
      obtain ⟨later, apart⟩ := Draw.exists_span_ne several 3
      have delete : kindOf 0 < kinds := by decide
      have insert : kindOf 0x40000000 < kinds := by decide
      have forked := forked_crossing later delete insert
      have drawn := (promise _ _ _ _ forked).1
      rw [forked.drawn_mutate_other, drawn_mutate tape _ forked.edited,
        kindDraw_crossing later delete, kindDraw_crossing later insert, span_crossing,
        span_crossing] at drawn
      exact apart (Nat.add_left_cancel drawn)
    · intro single rate vocabulary script other forked
      have alike (kind : Nat) (script : Script) :
          Draw.span (room tape.length kind) script = Draw.span 1 script := by
        rw [room, single]
        by_cases inserted : kind = 1
        · rw [if_pos inserted]
          exact Draw.span_two script
        · rw [if_neg inserted]
      have drawn : (tape.mutate rate vocabulary other).2.drawn =
          (tape.mutate rate vocabulary script).2.drawn := by
        rw [forked.drawn_mutate_other, drawn_mutate tape vocabulary forked.edited, alike, alike]
      exact ⟨drawn, forked.ahead_mutate tape drawn⟩

theorem words_of_kinds_move :
    (ofList [.move]).opcodes ≠ [] ∧
      ((ofList [.move]).mutate 1 .basic (crossing 0x40000000 fun _ => 0x80000000)).2.drawn =
        ((ofList [.move]).mutate 1 .basic (crossing 0 fun _ => 0x80000000)).2.drawn ∧
      ((ofList [.move]).mutate 1 .basic (crossing 0x40000000 fun _ => 0x80000000)).2.ahead =
        ((ofList [.move]).mutate 1 .basic (crossing 0 fun _ => 0x80000000)).2.ahead := by
  have some : (ofList [.move]).opcodes ≠ [] := by decide
  exact ⟨some, (words_of_kinds some).2.mpr rfl _ _ _ _
    (forked_crossing _ (by decide) (by decide))⟩

/-- On two opcodes a deletion refuses the word that an insertion takes. -/
theorem words_of_kinds_apart :
    Forked 1 .basic (crossing 0 parting) (crossing 0x40000000 parting) ∧
      ((ofList [.move, .move]).mutate 1 .basic (crossing 0 parting)).2.drawn = 5 ∧
      ((ofList [.move, .move]).mutate 1 .basic (crossing 0x40000000 parting)).2.drawn = 4 ∧
      ((ofList [.move, .move]).mutate 1 .basic (crossing 0 parting)).2.ahead 0 = 1 ∧
      ((ofList [.move, .move]).mutate 1 .basic (crossing 0x40000000 parting)).2.ahead 0 = 0 := by
  constructor
  · exact forked_crossing _ (by decide) (by decide)
  · decide +kernel

end Tape

end Forage
