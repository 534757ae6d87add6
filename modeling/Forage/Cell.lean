import Std.Data.ExtTreeSet

/-!
# Cells

A cell is a pair of whole numbers, off the grid as well as on it. Cells are
ordered by column, then by row, and a set of cells keeps nothing but its
members: sets with the same members are equal.
-/

namespace Forage

/-- A place on, or beside, the grid. -/
structure Cell where
  x : Int
  y : Int
deriving DecidableEq, Repr, Inhabited

namespace Cell

instance : Ord Cell where
  compare a b := (compare a.x b.x).then (compare a.y b.y)

theorem compare_def (a b : Cell) : compare a b = (compare a.x b.x).then (compare a.y b.y) :=
  rfl

instance : Std.TransOrd Cell :=
  inferInstanceAs (Std.TransCmp (compareLex (compareOn Cell.x) (compareOn Cell.y)))

instance : Std.LawfulEqOrd Cell where
  eq_of_compare {a b} same := by
    rw [compare_def, Ordering.then_eq_eq] at same
    cases a
    cases b
    simp_all

end Cell

abbrev CellSet : Type := Std.ExtTreeSet Cell

end Forage
