/-!
# Code points

An escape in a document can name half of a surrogate pair, and a half that stays
without its other half is no character. A text holds such a half as two characters,
a mark and one that tells which half it is, and holds the mark itself as two marks.
So every list of code points is held by a text of its own, and a text without marks
is what it seems to be.
-/

namespace Forage.Text

abbrev halves : Nat := 0x800

def firstHalf : Nat := 0xd800

/-- A code point: a character, or half of a surrogate pair, counted from the first half. -/
inductive Point where
  | char (c : Char)
  | half (index : Fin halves)
deriving DecidableEq, Repr

/-- The character that stands before what tells a half. -/
def mark : Char := Char.ofNat 0x10ffff

def firstTeller : Nat := 0x10f000

def teller (index : Fin halves) : Char :=
  Char.ofNat (firstTeller + index)

def told? (c : Char) : Option (Fin halves) :=
  if h : c.toNat - firstTeller < halves ∧ firstTeller ≤ c.toNat then some ⟨c.toNat - firstTeller, h.1⟩
  else none

namespace Point

def code : Point → Nat
  | char c => c.toNat
  | half index => firstHalf + index

def half? (code : Nat) : Option Point :=
  if h : code - firstHalf < halves ∧ firstHalf ≤ code then some (half ⟨code - firstHalf, h.1⟩)
  else none

def char? : Point → Option Char
  | char c => some c
  | half _ => none

def isHalf : Point → Bool
  | char _ => false
  | half _ => true

def held : Point → List Char
  | char c => if c = mark then [mark, mark] else [c]
  | half index => [mark, teller index]

end Point

def points : List Char → List Point
  | [] => []
  | [c] => [.char c]
  | c :: d :: rest =>
      if c = mark then ((told? d).elim (.char d) .half) :: points rest
      else .char c :: points (d :: rest)

def ofPoints (points : List Point) : String :=
  String.ofList (points.flatMap Point.held)

def ofChars (chars : List Char) : String :=
  ofPoints (chars.map .char)

/-- Whether a text comes before another, or is the same, by the numbers of its code points. -/
def precedes (a b : String) : Bool :=
  (compare ((points a.toList).map Point.code) ((points b.toList).map Point.code)).isLE

@[simp]
theorem points_cons_of_ne {c : Char} (h : c ≠ mark) (rest : List Char) :
    points (c :: rest) = .char c :: points rest := by
  cases rest with
  | nil => simp [points]
  | cons d rest => simp [points, h]

theorem told?_mark : told? mark = none := by
  decide

theorem toNat_teller (index : Fin halves) : (teller index).toNat = firstTeller + index := by
  have bound : index.val < 0x800 := index.isLt
  have valid : (firstTeller + index.val).isValidChar := by
    refine Or.inr ⟨?_, ?_⟩ <;> simp only [firstTeller] <;> omega
  rw [teller, Char.ofNat, dif_pos valid]
  exact rfl

theorem told?_teller (index : Fin halves) : told? (teller index) = some index := by
  have bound := index.isLt
  simp [told?, toNat_teller, bound]

@[simp]
theorem points_flatMap_held (all : List Point) : points (all.flatMap Point.held) = all := by
  induction all with
  | nil => rfl
  | cons point rest inductionHypothesis =>
      cases point with
      | half index => simp [Point.held, points, told?_teller, inductionHypothesis]
      | char c =>
          by_cases same : c = mark
          · simp [Point.held, points, same, told?_mark, inductionHypothesis]
          · simp [Point.held, same, inductionHypothesis]

end Forage.Text
