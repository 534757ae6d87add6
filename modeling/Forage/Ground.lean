import Forage.Grid
import Std.Data.ExtTreeMap

/-!
# The ground

Where food lies, where walls stand, and how many foragers are on each cell. Cells
are stored as they are on the grid; a question about any other cell is a question
about the cell it stands for.
-/

namespace Forage

structure Ground where
  food : CellSet
  walls : CellSet
  /-- The number of foragers on each cell that has any. -/
  crowd : Std.ExtTreeMap Cell Nat
deriving DecidableEq

namespace Ground

def bare : Ground := ⟨∅, ∅, ∅⟩

def count (ground : Ground) (cell : Cell) : Nat :=
  ground.crowd.getD cell 0

def holds (config : Config) (cells : CellSet) (cell : Cell) : Bool :=
  match config.normalize cell with
  | some cell => cells.contains cell
  | none => false

def isFood (config : Config) (ground : Ground) (cell : Cell) : Bool :=
  holds config ground.food cell

def isWall (config : Config) (ground : Ground) (cell : Cell) : Bool :=
  holds config ground.walls cell

def isWalkable (config : Config) (ground : Ground) (cell : Cell) : Bool :=
  match config.normalize cell with
  | some cell => !ground.walls.contains cell
  | none => false

/-- Whether a forager is on a cell, leaving out one that stands where `exclude` says. -/
def isOccupied (config : Config) (ground : Ground) (cell : Cell) (exclude : Option Cell) : Bool :=
  match config.normalize cell with
  | none => false
  | some cell =>
      let others := if exclude = some cell then ground.count cell - 1 else ground.count cell
      0 < others

def occupy (ground : Ground) (cell : Cell) : Ground :=
  { ground with crowd := ground.crowd.insert cell (ground.count cell + 1) }

/-- One forager less on a cell; a cell without foragers is forgotten. -/
def vacate (ground : Ground) (cell : Cell) : Ground :=
  { ground with
    crowd :=
      if ground.count cell ≤ 1 then ground.crowd.erase cell
      else ground.crowd.insert cell (ground.count cell - 1) }

def sow (ground : Ground) (cell : Cell) : Ground :=
  { ground with food := ground.food.insert cell }

def build (ground : Ground) (cell : Cell) : Ground :=
  { ground with walls := ground.walls.insert cell }

def harvest (config : Config) (ground : Ground) (cell : Cell) : Bool × Ground :=
  match config.normalize cell with
  | none => (false, ground)
  | some cell =>
      if ground.food.contains cell then (true, { ground with food := ground.food.erase cell })
      else (false, ground)

end Ground

end Forage
