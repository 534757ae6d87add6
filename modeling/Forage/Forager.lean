import Forage.Heading
import Forage.Tape

/-!
# Foragers

A forager stands on a cell, faces a heading, has some energy and carries the tape
that decides what it does. A forager that was never let into a world has the
number of an outsider.
-/

namespace Forage

structure Forager where
  id : Int
  energy : Int
  position : Cell
  heading : Heading
  tape : Tape
deriving DecidableEq, Repr, Inhabited

namespace Forager

/-- The number of a forager that was never let into a world. -/
def outsider : Int := -1

def turnLeft (forager : Forager) : Forager :=
  { forager with heading := forager.heading.turnLeft }

def turnRight (forager : Forager) : Forager :=
  { forager with heading := forager.heading.turnRight }

/-- A forager without energy is dead. -/
def Alive (forager : Forager) : Prop :=
  0 < forager.energy

instance (forager : Forager) : Decidable forager.Alive :=
  inferInstanceAs (Decidable (_ < _))

end Forager

end Forage
