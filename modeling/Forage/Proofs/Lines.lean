import Forage.Proofs.Spelling
import Forage.Recorder
import Mathlib.Data.List.Forall2

/-!
# What is written through templates

A record is what the signs of its template stand for, one after the other. Numbers written as
words come back from their bytes. A record with a number that no word holds, or that has more
digits than a limit allows, is not written at all.
-/

namespace Forage

namespace Template

open Element

variable {limit : Option Nat}

/-- The number that four bytes make up, the first of which counts most. -/
def wordBits (a b c d : UInt8) : Nat :=
  ((a.toNat * 0x100 + b.toNat) * 0x100 + c.toNat) * 0x100 + d.toNat

/-- The number that four bytes stand for, if their first bit is the sign. -/
def wordValue (a b c d : UInt8) : Int :=
  if wordBits a b c d < 0x80000000 then wordBits a b c d else wordBits a b c d - 0x100000000

/-- What is written for a sign where numbers may have so many digits. -/
def Sign.Writes (limit : Option Nat) (tally : Tally) (bytes : List UInt8) : Sign → Prop
  | plain char => String.utf8EncodeChar char = bytes
  | decimal entry => Text.IsWithin limit (tally.get entry) ∧
      (toString (tally.get entry)).toList.flatMap String.utf8EncodeChar = bytes
  | word entry => ∃ a b c d, bytes = [a, b, c, d] ∧ wordValue a b c d = tally.get entry
  | percent => [0x25] = bytes
  | lineFeed => [0x0a] = bytes
  | carriageReturn => [0x0d] = bytes

/-- The kind of fault with which a sign cannot be written. -/
def Sign.Refuses (limit : Option Nat) (tally : Tally) (kind : FaultKind) : Sign → Prop
  | decimal entry => ¬Text.IsWithin limit (tally.get entry) ∧ kind = .invalid
  | word entry => ¬FitsWord (tally.get entry) ∧ kind = .unpackable
  | plain _ | percent | lineFeed | carriageReturn => False

theorem parse_ofChars (chars : List Char) :
    parse (Text.ofChars chars) = ofPieces (Text.ofChars chars) (pieces (chars.map .char)) := by
  rw [parse, Text.points_ofChars]

theorem parse_of_spells {chars : List Char} {signs : List Sign} (spells : Spells chars signs) :
    ∃ template, parse (Text.ofChars chars) = .ok template ∧
      ∀ limit tally, template.renderWithin limit tally =
        renderWithin limit tally (signs.map Sign.element) := by
  rw [parse_ofChars]
  exact exists_template spells

theorem parse_eq_ok_iff {chars : List Char} :
    (∃ template, parse (Text.ofChars chars) = .ok template) ↔ ∃ signs, Spells chars signs := by
  constructor
  · rintro ⟨template, parsed⟩
    rw [parse_ofChars] at parsed
    rcases exists_signs_or_fault chars with spelled | ⟨fault, failed, -⟩
    · exact spelled
    · exact absurd (failed.symm.trans parsed) (by simp)
  · rintro ⟨signs, spells⟩
    obtain ⟨template, parsed, -⟩ := parse_of_spells spells
    exact ⟨template, parsed⟩

theorem Spells.append {front back : List Char} {first rest : List Sign}
    (spells : Spells front first) (more : Spells back rest) :
    Spells (front ++ back) (first ++ rest) := by
  induction spells with
  | nil => exact more
  | plain other _ inductionHypothesis => exact .plain other inductionHypothesis
  | escape listed _ inductionHypothesis => exact .escape listed inductionHypothesis

/-- A text in which every percent sign stands for itself. -/
def doubled (chars : List Char) : List Char :=
  chars.flatMap fun char => if char = '%' then ['%', '%'] else [char]

end Template

end Forage
