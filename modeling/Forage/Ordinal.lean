/-!
# Ordinals

A number picks one of several things that stand in a row. From zero on it counts from
the first, and below zero from the last.
-/

namespace Forage.Ordinal

def place? (count number : Int) : Option Nat :=
  if 0 ≤ number then if number < count then some number.toNat else none
  else if 0 ≤ number + count then some (number + count).toNat
  else none

end Forage.Ordinal
