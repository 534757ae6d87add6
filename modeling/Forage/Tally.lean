import Forage.Scene

/-!
# Tallies

A tally sums up a scene in four numbers. One of them is the change of the
population since the last tally; the first counts from nobody.
-/

namespace Forage

structure Tally where
  step : Int
  population : Int
  change : Int
  food : Int
deriving DecidableEq, Repr

namespace Tally

def next (last : Option Tally) (scene : Scene) : Tally where
  step := scene.step
  population := scene.population
  change := scene.population - (last.elim 0 population)
  food := scene.foodCount

end Tally

end Forage
