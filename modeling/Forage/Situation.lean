import Forage.Forager
import Forage.Ground

/-!
# Situations

A situation is a forager with the ground it acts upon. An opcode changes the
forager's place, heading and energy and takes food off the ground; it tells how
many of the opcodes that follow are to be skipped.
-/

namespace Forage

/-- A forager and the ground it acts upon. -/
structure Situation where
  ground : Ground
  forager : Forager
deriving DecidableEq

namespace Situation

variable (config : Config)

def ahead (situation : Situation) : Option Cell :=
  config.normalize (situation.forager.heading.ahead situation.forager.position)

def eat (cell : Cell) (situation : Situation) : Situation :=
  let (found, ground) := situation.ground.harvest config cell
  let gain := if found then config.energyPerFood else 0
  { ground, forager := { situation.forager with energy := situation.forager.energy + gain } }

def settle (cell : Cell) (situation : Situation) : Situation where
  ground := (situation.ground.vacate situation.forager.position).occupy cell
  forager := { situation.forager with position := cell }

def relocate (cell : Cell) (situation : Situation) : Except Fault Situation := do
  let target ← config.requireCell cell
  return situation.settle target

/--
Goes one cell forward and eats what lies there, if the way is clear, and says
whether it was.
-/
def move (situation : Situation) : Bool × Situation :=
  match situation.ahead config with
  | none => (false, situation)
  | some goal =>
      if situation.ground.isWalkable config goal then (true, (situation.eat config goal).settle goal)
      else (false, situation)

def turn (how : Forager → Forager) (situation : Situation) : Situation :=
  { situation with forager := how situation.forager }

/-- One if the cell ahead is as asked; `beyond` if there is no cell ahead. -/
def sense (beyond : Nat) (asked : Cell → Bool) (situation : Situation) : Nat :=
  match situation.ahead config with
  | none => beyond
  | some cell => if asked cell then 1 else 0

/-- Runs an opcode, and tells how many of those that follow are to be skipped. -/
def perform (opcode : Opcode) (situation : Situation) : Nat × Situation :=
  match opcode with
  | .doubleMove => (0, ((situation.move config).2.move config).2)
  | .move => (0, (situation.move config).2)
  | .left => (0, situation.turn Forager.turnLeft)
  | .right => (0, situation.turn Forager.turnRight)
  | .ifEntity =>
      (situation.sense config 0 fun cell =>
        situation.ground.isOccupied config cell (some situation.forager.position), situation)
  | .ifFood => (situation.sense config 0 (situation.ground.isFood config), situation)
  | .ifWall =>
      (situation.sense config 1 fun cell => !situation.ground.isWalkable config cell, situation)
  | .skip => (1, situation)
  | .skip2 => (2, situation)
  | .sleep => (0, situation)

def execute (situation : Situation) : Except Fault (Opcode × Situation) :=
  match situation.forager.tape.current? with
  | none => .error (.noOpcode situation.forager.tape.pointer)
  | some opcode =>
      let (skipped, situation) := situation.perform config opcode
      .ok (opcode, situation.turn fun forager =>
        { forager with tape := forager.tape.advance skipped })

def pay (situation : Situation) : Situation :=
  situation.turn fun forager => { forager with energy := forager.energy - config.energyPerStep }

/-- One step: runs an opcode, eats what lies underfoot, and pays for it. -/
def step (situation : Situation) : Except Fault Situation := do
  let (_, situation) ← situation.execute config
  return (situation.eat config situation.forager.position).pay config

end Situation

end Forage
