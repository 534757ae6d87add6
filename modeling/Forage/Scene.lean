import Forage.World

/-!
# Scenes

A scene is what an observer sees of a world between two ticks. It holds no live
forager, so nothing that happens later changes it.
-/

namespace Forage

structure Sighting where
  id : Int
  cell : Cell
  heading : Heading
  energy : Int
  opcodes : List Opcode
  pointer : Int
deriving DecidableEq, Repr

namespace Sighting

def ofForager (forager : Forager) : Sighting where
  id := forager.id
  cell := forager.position
  heading := forager.heading
  energy := forager.energy
  opcodes := forager.tape.opcodes
  pointer := forager.tape.pointer

def label (sighting : Sighting) : String :=
  Opcode.label sighting.opcodes

end Sighting

/-- A world as it was seen. -/
structure Scene where
  step : Int
  width : Int
  height : Int
  food : CellSet
  walls : CellSet
  sightings : List Sighting
deriving DecidableEq

namespace Scene

def population (scene : Scene) : Nat :=
  scene.sightings.length

def foodCount (scene : Scene) : Nat :=
  scene.food.size

end Scene

def World.scene {G : Type} (world : World G) : Scene where
  step := world.step
  width := world.config.width
  height := world.config.height
  food := world.ground.food
  walls := world.ground.walls
  sightings := world.foragers.map Sighting.ofForager

end Forage
